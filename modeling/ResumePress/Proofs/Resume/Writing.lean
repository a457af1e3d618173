import ResumePress.Proofs.Resume.Grammar
import ResumePress.Proofs.Resume.Plain
import ResumePress.Proofs.Text.Letters

/-!
# Writing resumes

How a record may be written as a configuration. There are many ways: a level is given by its name or
by its number, a degree by itself or with its subject, and what is absent is left out or empty. In
whatever way a record of plain texts is written, it reads as that record, with its years as plain
numbers.
-/
namespace ResumePress

/-! ## Fields -/

namespace ConfigEntries

/-- Words, which may be left out where there are none. -/
def GivesWords (entries : ConfigEntries) (field : String) (v : Value) : Prop :=
  entries.optional field = v ∨ v = .text "" ∧ entries.optional field = .null

structure GivesYears (entries : ConfigEntries) (y : Years) : Prop where
  start : entries.optional "start_year" = .int y.start.amount
  finish : entries.optional "end_year" = .int y.finish.amount

/-- A list of things in their order, which may be left out where there are none. -/
inductive WrittenItems {α : Type} (W : α → Value → Prop) : List α → Value → Prop
  | nothing : WrittenItems W [] .null
  | list {as : List α} {items : List Value} (h : List.Forall₂ W as items) :
    WrittenItems W as (.list items)

variable {entries : ConfigEntries} {field : String} {v : Value}

theorem words_of_optional_eq (h : entries.optional field = v) (hv : v.IsPlain) :
    entries.Words Value.isSpellable field v := by
  obtain ⟨s, rfl⟩ := hv
  exact words_text h

theorem GivesWords.optionalWords (h : entries.GivesWords field v) (hv : v.IsPlain) :
    entries.OptionalWords Value.isSpellable field v := by
  obtain ⟨s, rfl⟩ := hv
  rcases h with heq | ⟨hempty, hnull⟩
  · exact optionalWords_text heq
  · rw [hempty]
    exact optionalWords_null hnull

theorem WrittenItems.readsAs {α β : Type} {W : α → Value → Prop} {R : Value → β → Prop} {f : α → β}
    {as : List α} (hf : ∀ a ∈ as, ∀ item, W a item → R item (f a)) (h : WrittenItems W as v) :
    ItemsReadAs R v (as.map f) := by
  cases h with
  | nothing => exact .nothing
  | list h =>
    apply ItemsReadAs.list
    induction h with
    | nil => exact .nil
    | cons ha _ ih =>
      refine .cons (hf _ (by simp) _ ha) (ih ?_)
      intro b hb
      exact hf b (by simp [hb])

end ConfigEntries

/-! ## Skills and degrees -/

namespace Proficiency

/-- A level as it may be written: its name, with any of the letters in capitals, or its ordinal. -/
inductive WrittenAs (p : Proficiency) : Value → Prop
  | name {s : String} (h : s.toLower = p.token) : WrittenAs p (.text s)
  | ordinal : WrittenAs p (.int p.ordinal)

theorem WrittenAs.isNamedBy {p : Proficiency} {v : Value} (h : p.WrittenAs v) :
    p.IsNamedBy Value.isSpellable v := by
  cases h with
  | name h =>
    have hletters : p.token.toList.all (fun c => decide (Text.IsSmallLetter c)) = true := by
      cases p <;> decide
    exact .name rfl rfl (Text.upper_trim_eq (by simpa using hletters) h)
  | ordinal => exact .ordinal

inductive WrittenAs? : Option Proficiency → Value → Prop
  | nothing : WrittenAs? Option.none .null
  | level {p : Proficiency} {v : Value} (h : p.WrittenAs v) : WrittenAs? (Option.some p) v

theorem WrittenAs?.readsAs {level : Option Proficiency} {v : Value} (h : WrittenAs? level v) :
    ReadsAs Value.isSpellable v level := by
  cases h with
  | nothing => exact .nothing
  | level h =>
    refine .level ?_ h.isNamedBy
    rintro rfl
    cases h

end Proficiency

namespace Skill

inductive WrittenAs (s : Skill) : Value → Prop
  | label (h : s.level = none) : WrittenAs s s.label
  | mapping {entries : ConfigEntries} (hlabel : entries.optional "label" = s.label)
    (hlevel : Proficiency.WrittenAs? s.level (entries.optional "proficiency")) :
    WrittenAs s (.mapping entries)

theorem WrittenAs.readsAs {s : Skill} {v : Value} (h : s.WrittenAs v) (hs : s.label.IsPlain) :
    ReadsAs Value.isSpellable v s := by
  cases h with
  | label hlevel =>
    obtain ⟨label, level⟩ := s
    obtain ⟨text, rfl⟩ := hs
    cases hlevel
    exact .label rfl
  | mapping hlabel hlevel =>
    exact .mapping (ConfigEntries.words_of_optional_eq hlabel hs) hlevel.readsAs

end Skill

namespace Degree

/-- A degree with its subject, or alone if it has none and needs none. No degree may be left out. -/
inductive WrittenAs (d : Degree) : Value → Prop
  | mapping {entries : ConfigEntries} (hkind : entries.optional "kind" = .text d.kind.token)
    (hsubject : entries.optional "subject" = d.subject) : WrittenAs d (.mapping entries)
  | kind (hkind : d.kind = .highSchool ∨ d.kind = .none) (hsubject : d.subject = .null) :
    WrittenAs d (.text d.kind.token)
  | nothing (h : d = absent) : WrittenAs d .null

theorem isNamedBy_token (k : DegreeKind) : k.IsNamedBy Value.isSpellable (.text k.token) := by
  refine ⟨rfl, ?_⟩
  cases k <;> decide

theorem WrittenAs.readsAs {d : Degree} {v : Value} (h : d.WrittenAs v) :
    ReadsAs Value.isSpellable v d := by
  cases h with
  | mapping hkind hsubject =>
    refine .mapping ?_ ?_ hsubject.symm
    · simp [ConfigEntries.Has, hkind]
    · rw [hkind]
      exact isNamedBy_token d.kind
  | kind _ hsubject => exact .kind rfl (isNamedBy_token d.kind) hsubject
  | nothing h => exact h ▸ .nothing

end Degree

/-! ## Education, work and contact details -/

def Years.inDigits (y : Years) : Years :=
  ⟨.int y.start.amount, .int y.finish.amount, y.nonneg, y.ordered⟩

theorem ConfigEntries.GivesYears.spans {entries : ConfigEntries} {y : Years}
    (h : entries.GivesYears y) : entries.Spans y.inDigits :=
  ⟨h.start, h.finish⟩

namespace Education

def inDigits (e : Education) : Education :=
  { e with years := e.years.inDigits }

inductive WrittenAs (e : Education) : Value → Prop
  | mapping {entries : ConfigEntries} (years : entries.GivesYears e.years)
    (school : entries.optional "school" = e.school)
    (field : entries.optional "field_of_study" = e.field)
    (degree : e.degree.WrittenAs (entries.optional "degree")) : WrittenAs e (.mapping entries)

theorem WrittenAs.readsAs {e : Education} {v : Value} (h : e.WrittenAs v) (he : e.IsPlain) :
    ReadsAs Value.isSpellable v e.inDigits := by
  obtain ⟨hyears, hschool, hfield, hdegree⟩ := h
  exact .mapping hyears.spans (ConfigEntries.words_of_optional_eq hschool he.school) hfield.symm
    hdegree.readsAs

end Education

namespace Work

def inDigits (w : Work) : Work :=
  { w with years := w.years.inDigits }

inductive WrittenAs (w : Work) : Value → Prop
  | mapping {entries : ConfigEntries} (years : entries.GivesYears w.years)
    (position : entries.optional "position" = w.position)
    (company : entries.optional "company" = w.company)
    (description : entries.GivesWords "description" w.description) : WrittenAs w (.mapping entries)

theorem WrittenAs.readsAs {w : Work} {v : Value} (h : w.WrittenAs v) (hw : w.IsPlain)
    (hdescription : w.description.IsPlain) : ReadsAs Value.isSpellable v w.inDigits := by
  obtain ⟨hyears, hposition, hcompany, hwords⟩ := h
  exact .mapping hyears.spans (ConfigEntries.words_of_optional_eq hposition hw.position)
    (ConfigEntries.words_of_optional_eq hcompany hw.company) (hwords.optionalWords hdescription)

end Work

namespace Contact

/-- Contact details field by field. No details at all may be left out together. -/
inductive WrittenAs (c : Contact) : Value → Prop
  | mapping {entries : ConfigEntries}
    (hknown : ∀ e ∈ entries, ∃ f ∈ contactFields, e.1 = .text f)
    (hfields : List.Forall₂ (fun f w => entries.optional f = (w.map Wording.toValue).getD .null)
      contactFields c.fields) : WrittenAs c (.mapping entries)
  | nothing (h : c = absent) : WrittenAs c .null

theorem fieldReadsAs {w : Option Wording} (hw : ∀ x ∈ w, x.IsPlain) :
    FieldReadsAs Value.isSpellable ((w.map Wording.toValue).getD .null) w := by
  cases w with
  | none => exact .nothing
  | some x =>
    obtain ⟨s, rfl⟩ := hw x rfl
    exact .words (v := .text s) (by simp) rfl

theorem WrittenAs.readsAs {c : Contact} {v : Value} (h : c.WrittenAs v) (hc : c.IsPlain) :
    ReadsAs Value.isSpellable v c := by
  cases h with
  | mapping hknown hfields =>
    refine .mapping ?_ ?_
    · intro e he
      obtain ⟨f, hf, heq⟩ := hknown e he
      exact ⟨f, hf, by simp [heq, Value.same, Value.sameAtom, Value.content?]⟩
    · simp only [contactFields, fields, List.forall₂_cons, List.Forall₂.nil, and_true]
        at hfields ⊢
      obtain ⟨hemail, hphone, hwebsite, hgithub, hlinkedin⟩ := hfields
      rw [hemail, hphone, hwebsite, hgithub, hlinkedin]
      exact ⟨fieldReadsAs hc.email, fieldReadsAs hc.phone, fieldReadsAs hc.website,
        fieldReadsAs hc.github, fieldReadsAs hc.linkedin⟩
  | nothing h => exact h ▸ .nothing

end Contact

/-! ## Sameness of what is written and what is read -/

theorem Value.IsPlain.same_self {v : Value} (h : v.IsPlain) : v.same v = true := by
  obtain ⟨s, rfl⟩ := h
  simp [Value.same, sameAtom, content?]

theorem Value.IsPlainOrNull.same_self {v : Value} (h : v.IsPlainOrNull) : v.same v = true := by
  rcases h with rfl | h
  · simp [Value.same, sameAtom, content?]
  · exact h.same_self

theorem Years.same_inDigits (y : Years) :
    y.inDigits.start.toValue.same y.start.toValue = true ∧
      y.inDigits.finish.toValue.same y.finish.toValue = true := by
  have hamount : ∀ w : Whole, (Whole.int w.amount).toValue.same w.toValue = true := by
    intro w
    cases w <;> simp [Whole.amount, Whole.toValue, Value.same, Value.sameAtom, Value.content?,
      Value.number?]
  exact ⟨hamount y.start, hamount y.finish⟩

theorem sameAll_map {α : Type} {f g : α → Value} {as : List α}
    (h : ∀ a ∈ as, (f a).same (g a) = true) : sameAll (as.map f) (as.map g) = true := by
  induction as with
  | nil => simp [sameAll]
  | cons a as ih =>
    rw [List.map_cons, List.map_cons, sameAll, h a (by simp)]
    exact ih fun b hb => h b (by simp [hb])

theorem Skill.same_self {s : Skill} (h : s.label.IsPlain) : s.toValue.same s.toValue = true := by
  obtain ⟨label, level⟩ := s
  cases level <;> simp [toValue, Value.same, sameAll, h.same_self, Value.sameAtom, Value.content?,
    Value.number?]

theorem Degree.same_self {d : Degree} (h : d.subject.IsPlainOrNull) :
    d.toValue.same d.toValue = true := by
  simp [toValue, Value.same, sameAll, h.same_self, Value.sameAtom, Value.content?]

theorem Education.same_inDigits {e : Education} (h : e.IsPlain) :
    e.inDigits.toValue.same e.toValue = true := by
  simp [inDigits, toValue, Value.same, sameAll, e.years.same_inDigits, h.school.same_self,
    h.field.same_self, Degree.same_self h.subject]

theorem Work.same_inDigits {w : Work} (h : w.IsPlain) (hd : w.description.IsPlain) :
    w.inDigits.toValue.same w.toValue = true := by
  simp [inDigits, toValue, Value.same, sameAll, w.years.same_inDigits, h.position.same_self,
    h.company.same_self, hd.same_self]

theorem Contact.same_self (c : Contact) : c.toValue.same c.toValue = true := by
  have hfield : ∀ w ∈ c.fields, ((w.map Wording.toValue).getD .null).same
      ((w.map Wording.toValue).getD .null) = true := by
    rintro (_ | s | s) - <;> simp [Value.same, Value.sameAtom, Value.content?, Wording.toValue]
  simp [toValue, Value.same, sameAll_map hfield]

/-! ## Whole resumes -/

namespace Resume

def inDigits (r : Resume) : Resume :=
  { r with
    education := r.education.map Education.inDigits
    work := r.work.map Work.inDigits }

/-- A resume all of whose texts are plain, those that are not shown included. -/
structure IsWritable (r : Resume) : Prop where
  isPlain : r.IsPlain
  description : ∀ w ∈ r.work, w.description.IsPlain

/-- The ways to write a resume. -/
inductive WrittenAs (r : Resume) : Value → Prop
  | mapping {entries : ConfigEntries} (firstName : entries.optional "first_name" = r.firstName)
    (lastName : entries.optional "last_name" = r.lastName)
    (profession : entries.GivesWords "profession" r.profession)
    (description : entries.GivesWords "description" r.description)
    (contact : r.contact.WrittenAs (entries.optional "contact_info"))
    (skills : ConfigEntries.WrittenItems Skill.WrittenAs r.skills (entries.optional "skills"))
    (education : ConfigEntries.WrittenItems Education.WrittenAs r.education
      (entries.optional "education"))
    (work : ConfigEntries.WrittenItems Work.WrittenAs r.work
      (entries.optional "work_experience")) : WrittenAs r (.mapping entries)

theorem WrittenAs.readsAs {r : Resume} {v : Value} (h : r.WrittenAs v) (hr : r.IsWritable) :
    ReadsAs Value.isSpellable v r.inDigits := by
  obtain ⟨hfirst, hlast, hprofession, hdescription, hcontact, hskills, heducation, hwork⟩ := h
  have hplain := hr.isPlain
  have hskills := hskills.readsAs (f := id) fun s hs _ h => h.readsAs (hplain.skills s hs)
  rw [List.map_id] at hskills
  exact .mapping (ConfigEntries.words_of_optional_eq hfirst hplain.firstName)
    (ConfigEntries.words_of_optional_eq hlast hplain.lastName)
    (hprofession.optionalWords hplain.profession)
    (hdescription.optionalWords hplain.description) (hcontact.readsAs hplain.contact) hskills
    (heducation.readsAs fun e he _ h => h.readsAs (hplain.education e he))
    (hwork.readsAs fun w hw _ h => h.readsAs (hplain.work w hw) (hr.description w hw))

theorem same_inDigits {r : Resume} (hr : r.IsWritable) :
    r.inDigits.toValue.same r.toValue = true := by
  have hplain := hr.isPlain
  have hskills : sameAll (r.skills.map Skill.toValue) (r.skills.map Skill.toValue) = true :=
    sameAll_map fun s hs => Skill.same_self (hplain.skills s hs)
  have heducation : sameAll (r.education.map (Education.toValue ∘ Education.inDigits))
      (r.education.map Education.toValue) = true :=
    sameAll_map fun e he => Education.same_inDigits (hplain.education e he)
  have hwork : sameAll (r.work.map (Work.toValue ∘ Work.inDigits)) (r.work.map Work.toValue) =
      true :=
    sameAll_map fun w hw => Work.same_inDigits (hplain.work w hw) (hr.description w hw)
  simp [toValue, inDigits, Value.same, sameAll, hplain.firstName.same_self,
    hplain.lastName.same_self, hplain.profession.same_self, hplain.description.same_self,
    Contact.same_self, hskills, heducation, hwork]

end Resume

/-! ## A way to write every resume -/

open ConfigEntries (named)

namespace Skill

def toConfig (s : Skill) : Value :=
  .mapping (named [("label", s.label),
    ("proficiency", (s.level.map fun p => Value.text p.token).getD .null)])

theorem writtenAs_toConfig (s : Skill) : s.WrittenAs s.toConfig := by
  have hlevel : Proficiency.WrittenAs? s.level
      ((s.level.map fun p => Value.text p.token).getD .null) := by
    cases s.level with
    | none => exact .nothing
    | some p =>
      have htoken : p.token.toLower = p.token := by cases p <;> decide +kernel
      exact .level (.name htoken)
  refine .mapping ?_ ?_ <;> simp [List.lookup_cons]
  exact hlevel

end Skill

namespace Degree

def toConfig (d : Degree) : Value :=
  .mapping (named [("kind", .text d.kind.token), ("subject", d.subject)])

theorem writtenAs_toConfig (d : Degree) : d.WrittenAs d.toConfig :=
  .mapping (by simp) (by simp [List.lookup_cons])

end Degree

def Years.toFields (y : Years) : List (String × Value) :=
  [("start_year", .int y.start.amount), ("end_year", .int y.finish.amount)]

namespace Education

def toConfig (e : Education) : Value :=
  .mapping (named (e.years.toFields ++ [("school", e.school), ("field_of_study", e.field),
    ("degree", e.degree.toConfig)]))

theorem writtenAs_toConfig (e : Education) : e.WrittenAs e.toConfig := by
  refine .mapping ⟨?_, ?_⟩ ?_ ?_ ?_ <;> simp [Years.toFields, List.lookup_cons]
  exact Degree.writtenAs_toConfig e.degree

end Education

namespace Work

def toConfig (w : Work) : Value :=
  .mapping (named (w.years.toFields ++ [("position", w.position), ("company", w.company),
    ("description", w.description)]))

theorem writtenAs_toConfig (w : Work) : w.WrittenAs w.toConfig := by
  refine .mapping ⟨?_, ?_⟩ ?_ ?_ (.inl ?_) <;> simp [Years.toFields, List.lookup_cons]

end Work

namespace Contact

def toConfig (c : Contact) : Value :=
  .mapping (named (contactFields.zip (c.fields.map fun w => (w.map Wording.toValue).getD .null)))

theorem writtenAs_toConfig (c : Contact) : c.WrittenAs c.toConfig := by
  refine .mapping ?_ ?_
  · intro e he
    obtain ⟨f, hf, rfl⟩ := List.mem_map.mp he
    exact ⟨f.1, (List.of_mem_zip hf).1, rfl⟩
  · simp [contactFields, fields, List.lookup_cons]

end Contact

namespace Resume

def toConfig (r : Resume) : Value :=
  .mapping (named [("first_name", r.firstName), ("last_name", r.lastName),
    ("profession", r.profession), ("description", r.description),
    ("contact_info", r.contact.toConfig), ("skills", .list (r.skills.map Skill.toConfig)),
    ("education", .list (r.education.map Education.toConfig)),
    ("work_experience", .list (r.work.map Work.toConfig))])

theorem writtenItems_map {α : Type} {W : α → Value → Prop} {f : α → Value} (h : ∀ a, W a (f a))
    (as : List α) : ConfigEntries.WrittenItems W as (.list (as.map f)) :=
  .list (List.forall₂_map_right_iff.mpr (List.forall₂_same.mpr fun a _ => h a))

theorem writtenAs_toConfig (r : Resume) : r.WrittenAs r.toConfig := by
  refine .mapping ?_ ?_ (.inl ?_) (.inl ?_) ?_ ?_ ?_ ?_ <;> simp [List.lookup_cons]
  · exact Contact.writtenAs_toConfig r.contact
  · exact writtenItems_map Skill.writtenAs_toConfig r.skills
  · exact writtenItems_map Education.writtenAs_toConfig r.education
  · exact writtenItems_map Work.writtenAs_toConfig r.work

/-- Every resume of plain texts can be written, and however it is written it is read again. -/
theorem ofConfig_of_writtenAs {r : Resume} (hr : r.IsWritable) : r.WrittenAs r.toConfig ∧
    ∀ v, r.WrittenAs v →
      ofConfig v = .ok r.inDigits ∧ r.inDigits.toValue.same r.toValue = true := by
  refine ⟨writtenAs_toConfig r, ?_⟩
  intro v hv
  exact ⟨ofConfig_eq_ok_iff.mpr (hv.readsAs hr), same_inDigits hr⟩

def beginner : Resume where
  firstName := .text "Ada"
  lastName := .text "Lovelace"
  profession := .text ""
  description := .text "$\x7bx"
  contact := ⟨none, some (.plain ""), none, none, none⟩
  skills := [⟨.text "Knitting", none⟩, ⟨.text "", some .none⟩, ⟨.text "Analysis", some .strong⟩]
  education := [⟨⟨.int 1833, .int 1833, by decide, by decide⟩, .text "", .text "", .absent⟩]
  work := []

def beginnerConfig : ConfigEntries :=
  named [("last_name", .text "Lovelace"), ("first_name", .text "Ada"),
    ("description", .text "$\x7bx"),
    ("contact_info", .mapping (named [("phone", .text "")])),
    ("skills", .list [.text "Knitting",
      .mapping (named [("label", .text ""), ("proficiency", .int 0)]),
      .mapping (named [("proficiency", .text "sTRonG"), ("label", .text "Analysis")])]),
    ("education", .list [.mapping (named [("school", .text ""), ("start_year", .int 1833),
      ("end_year", .int 1833), ("field_of_study", .text "")])])]

theorem isWritable_beginner : beginner.IsWritable := by
  refine ⟨⟨⟨_, rfl⟩, ⟨_, rfl⟩, ⟨_, rfl⟩, ⟨_, rfl⟩, ⟨?_, ?_, ?_, ?_, ?_⟩, ?_, ?_, ?_⟩, ?_⟩ <;>
    simp [beginner, Wording.IsPlain, Value.IsPlain]
  exact ⟨⟨_, rfl⟩, .inr ⟨_, rfl⟩, .inl rfl⟩

theorem writtenAs_beginnerConfig : beginner.WrittenAs (.mapping beginnerConfig) := by
  have hphone : beginner.contact.WrittenAs (.mapping (named [("phone", .text "")])) :=
    .mapping (by simp [named, contactFields])
      (by simp [beginner, Contact.fields, contactFields, List.lookup_cons, Wording.toValue])
  have hnone : (⟨.text "", some .none⟩ : Skill).WrittenAs
      (.mapping (named [("label", .text ""), ("proficiency", .int 0)])) :=
    .mapping (by simp) (by simpa [List.lookup_cons] using .level .ordinal)
  have hstrong : (⟨.text "Analysis", some .strong⟩ : Skill).WrittenAs
      (.mapping (named [("proficiency", .text "sTRonG"), ("label", .text "Analysis")])) :=
    .mapping (by simp [List.lookup_cons])
      (by simpa [List.lookup_cons] using .level (.name (by decide +kernel)))
  have hschool : (⟨⟨.int 1833, .int 1833, by decide, by decide⟩, .text "", .text "", .absent⟩ :
      Education).WrittenAs (.mapping (named [("school", .text ""), ("start_year", .int 1833),
        ("end_year", .int 1833), ("field_of_study", .text "")])) :=
    .mapping ⟨by simp [List.lookup_cons, Whole.amount], by simp [List.lookup_cons, Whole.amount]⟩
      (by simp) (by simp [List.lookup_cons])
      (by simpa [List.lookup_cons] using .nothing rfl)
  refine .mapping ?_ ?_ (.inr ?_) (.inl ?_) ?_ ?_ ?_ ?_ <;>
    simp [beginnerConfig, List.lookup_cons, beginner]
  · exact hphone
  · exact .list (.cons (.label rfl) (.cons hnone (.cons hstrong .nil)))
  · exact .list (.cons hschool .nil)
  · exact .nothing

theorem ofConfig_of_writtenAs_beginner :
    ofConfig (.mapping beginnerConfig) = .ok beginner.inDigits ∧
      beginner.inDigits.toValue.same beginner.toValue = true :=
  (ofConfig_of_writtenAs isWritable_beginner).2 _ writtenAs_beginnerConfig

end Resume

end ResumePress
