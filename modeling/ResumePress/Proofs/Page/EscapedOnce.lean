import ResumePress.Proofs.Page.Correspondence
import ResumePress.Proofs.Resume.Plain

/-!
# Every text is escaped once

Rendering a plain resume with escaping gives the page that rendering without it gives of the resume
whose texts are escaped beforehand. So each text is escaped once and nothing else is, although
addresses are completed, names joined and sentences made between the resume and its page.
-/
namespace ResumePress

/-! ## Resumes with escaped texts -/

/-- A plain text with its markup characters escaped, and still plain. -/
def Value.withEntities : Value → Value
  | .text s => .text (Text.withEntities s)
  | v => v

@[simp] theorem Value.withEntities_text (s : String) :
    (text s).withEntities = text (Text.escape s) := by
  rw [withEntities, Text.withEntities_eq_escape]

theorem Value.truthy_withEntities (v : Value) : v.withEntities.truthy = v.truthy := by
  cases v with
  | text s => rw [withEntities_text, truthy, truthy, Text.isEmpty_escape]
  | _ => rfl

def Wording.withEntities (w : Wording) : Wording :=
  w.map Text.withEntities

@[simp] theorem Wording.withEntities_plain (s : String) :
    (plain s).withEntities = plain (Text.escape s) := by
  rw [withEntities, map, Text.withEntities_eq_escape]

def Degree.withEntities (d : Degree) : Degree where
  kind := d.kind
  subject := d.subject.withEntities
  stated h := by
    rw [Value.truthy_withEntities]
    exact d.stated h

def Education.withEntities (e : Education) : Education :=
  { e with
    school := e.school.withEntities
    field := e.field.withEntities
    degree := e.degree.withEntities }

def Work.withEntities (w : Work) : Work :=
  { w with position := w.position.withEntities, company := w.company.withEntities }

def Skill.withEntities (s : Skill) : Skill :=
  { s with label := s.label.withEntities }

def Contact.withEntities (c : Contact) : Contact where
  email := c.email.map Wording.withEntities
  phone := c.phone.map Wording.withEntities
  website := c.website.map Wording.withEntities
  github := c.github.map Wording.withEntities
  linkedin := c.linkedin.map Wording.withEntities

/-- The resume with every text escaped that a page shows. -/
def Resume.withEntities (r : Resume) : Resume where
  firstName := r.firstName.withEntities
  lastName := r.lastName.withEntities
  profession := r.profession.withEntities
  description := r.description.withEntities
  contact := r.contact.withEntities
  skills := r.skills.map Skill.withEntities
  education := r.education.map Education.withEntities
  work := r.work.map Work.withEntities

theorem Value.isSpellable_withEntities (v : Value) :
    v.withEntities.isSpellable = v.isSpellable := by
  cases v <;> rfl

theorem Education.IsSpellable.withEntities {e : Education} (h : e.IsSpellable) :
    e.withEntities.IsSpellable where
  years := h.years
  school := e.school.isSpellable_withEntities.trans h.school
  field := e.field.isSpellable_withEntities.trans h.field
  subject hk := e.degree.subject.isSpellable_withEntities.trans (h.subject hk)

theorem Work.IsSpellable.withEntities {w : Work} (h : w.IsSpellable) :
    w.withEntities.IsSpellable where
  years := h.years
  position := w.position.isSpellable_withEntities.trans h.position
  company := w.company.isSpellable_withEntities.trans h.company

theorem Resume.IsSpellable.withEntities {r : Resume} (h : r.IsSpellable) :
    r.withEntities.IsSpellable where
  firstName := r.firstName.isSpellable_withEntities.trans h.firstName
  lastName := r.lastName.isSpellable_withEntities.trans h.lastName
  profession := r.profession.isSpellable_withEntities.trans h.profession
  description := r.description.isSpellable_withEntities.trans h.description
  skills := List.forall_mem_map.mpr fun s hs =>
    s.label.isSpellable_withEntities.trans (h.skills s hs)
  education := List.forall_mem_map.mpr fun e he => (h.education e he).withEntities
  work := List.forall_mem_map.mpr fun w hw => (h.work w hw).withEntities

/-! ## Escaping commutes with what the layout does to a text -/

theorem additive_eq : Text.Additive Eq where
  refl _ := rfl
  append hab hcd := by rw [hab, hcd]

theorem embedded_withEntities {v : Value} (h : v.IsPlain) :
    v.embedded .escape = v.withEntities.embedded .verbatim := by
  obtain ⟨s, rfl⟩ := h
  rw [Value.withEntities_text]
  rfl

theorem asText_withEntities {v : Value} (h : v.IsPlain) :
    v.asText.embedded .escape = v.withEntities.asText.embedded .verbatim := by
  obtain ⟨s, rfl⟩ := h
  rw [Value.withEntities_text]
  rfl

namespace Wording

theorem prependOnce_withEntities {opening : String}
    (h : Text.IsBland opening.toList) {w : Wording} (hw : w.IsPlain) :
    prependOnce (.plain opening) w.withEntities =
      (prependOnce (.plain opening) w).withEntities := by
  obtain ⟨s, rfl⟩ := hw
  have hbegin : Text.beginsWith opening (Text.escape s) = Text.beginsWith opening s :=
    Text.beginsWith_escape h s
  rw [withEntities_plain]
  change (if Text.beginsWith opening (Text.escape s) then plain (Text.escape s)
    else plain (opening ++ Text.escape s)) =
      (if Text.beginsWith opening s then plain s else plain (opening ++ s)).withEntities
  rw [hbegin]
  split
  · rw [withEntities_plain]
  · rw [withEntities_plain, Text.escape_append, Text.escape_eq_self h]

theorem embedded_toValue_withEntities {w : Wording} (hw : w.IsPlain) :
    w.toValue.embedded .escape = w.withEntities.toValue.embedded .verbatim := by
  obtain ⟨s, rfl⟩ := hw
  rw [withEntities_plain]
  rfl

theorem completed_withEntities {opening : String}
    (h : Text.IsBland opening.toList) {w : Wording} (hw : w.IsPlain) :
    completed opening w.withEntities = (completed opening w).withEntities := by
  have hscheme : Text.holds "://" w.withEntities.content = Text.holds "://" w.content := by
    obtain ⟨s, rfl⟩ := hw
    rw [withEntities_plain]
    exact Text.holds_scheme_escape s
  rw [completed, completed, hscheme]
  split
  · rfl
  · exact prependOnce_withEntities h hw

theorem withoutSpaces_withEntities {w : Wording} (hw : w.IsPlain) :
    w.withEntities.withoutSpaces = w.withoutSpaces.withEntities := by
  obtain ⟨s, rfl⟩ := hw
  have hs : (Text.escape s).toList.filter (· ≠ ' ') =
      (Text.escape (String.ofList (s.toList.filter (· ≠ ' ')))).toList := by
    rw [Text.toList_escape, Text.toList_escape, Text.filter_flatMap_entity, String.toList_ofList]
  rw [withEntities_plain]
  change plain (String.ofList ((Text.escape s).toList.filter (· ≠ ' '))) =
    (plain (String.ofList (s.toList.filter (· ≠ ' ')))).withEntities
  rw [withEntities_plain, hs, String.ofList_toList]

end Wording

namespace Contact

/-- A field and the field with its text escaped have links of the same page text, where the address
of an escaped text is the escaped address. -/
theorem link?_withEntities {address : Wording → Wording} {field : Option Wording}
    (hf : ∀ w ∈ field, w.IsPlain) (hplain : ∀ s, (address (.plain s)).IsPlain)
    (h : ∀ w : Wording, w.IsPlain → address w.withEntities = (address w).withEntities) :
    Option.Rel (ContactLink.Matches Eq .escape .verbatim) (link? address field)
      (link? address (field.map Wording.withEntities)) := by
  cases field with
  | none => exact .none
  | some w =>
    have hw := hf w rfl
    have haddress : (address w).IsPlain := by
      obtain ⟨s, rfl⟩ := hw
      exact hplain s
    have hempty : w.withEntities.content.isEmpty = w.content.isEmpty := by
      obtain ⟨s, rfl⟩ := hw
      rw [Wording.withEntities_plain]
      exact Text.isEmpty_escape s
    rw [link?, Option.map_some, link?, hempty, h w hw]
    split
    · exact .none
    · exact .some ⟨Wording.embedded_toValue_withEntities hw,
        Wording.embedded_toValue_withEntities haddress⟩

/-- Spaces are left out of a number before or after it is escaped. -/
theorem phoneAddress_withEntities {w : Wording} (hw : w.IsPlain) :
    phoneAddress w.withEntities = (phoneAddress w).withEntities := by
  have hspaces : w.withoutSpaces.IsPlain := by
    obtain ⟨s, rfl⟩ := hw
    exact ⟨_, rfl⟩
  rw [phoneAddress, Wording.withoutSpaces_withEntities hw,
    Wording.prependOnce_withEntities (by decide) hspaces, phoneAddress]

theorem links_withEntities {c : Contact} (hc : c.IsPlain) :
    List.Forall₂ (ContactLink.Matches Eq .escape .verbatim) c.links c.withEntities.links := by
  apply links_matches
  · exact link?_withEntities hc.email (Wording.prependOnce_isPlain _)
      fun _ => Wording.prependOnce_withEntities (by decide)
  · exact link?_withEntities hc.phone (fun _ => Wording.prependOnce_isPlain _ _)
      fun _ => phoneAddress_withEntities
  · exact link?_withEntities hc.website (Wording.completed_isPlain _)
      fun _ => Wording.completed_withEntities (by decide)
  · exact link?_withEntities hc.github (Wording.completed_isPlain _)
      fun _ => Wording.completed_withEntities (by decide)
  · exact link?_withEntities hc.linkedin (Wording.completed_isPlain _)
      fun _ => Wording.completed_withEntities (by decide)

end Contact

namespace Degree

/-- The words of a degree around its subject hold nothing to escape. -/
theorem describe_withEntities {d : Degree} (h : d.subject.IsPlainOrNull) :
    d.describe.embedded .escape = d.withEntities.describe.embedded .verbatim := by
  obtain ⟨kind, subject, stated⟩ := d
  have hwords : ∀ opening : String, Text.IsBland opening.toList →
      kind.needsSubject = true → Text.escape (opening ++ " " ++ subject.printed) =
        opening ++ " " ++ subject.withEntities.printed := by
    intro opening ho hk
    obtain ⟨s, rfl⟩ := h.isPlain (stated hk)
    rw [Text.escape_append, Text.escape_append, Text.escape_eq_self ho, Value.withEntities_text]
    rfl
  cases kind with
  | associate => exact hwords _ (by decide) rfl
  | bachelor => exact hwords _ (by decide) rfl
  | master => exact hwords _ (by decide) rfl
  | doctorate => exact hwords _ (by decide) rfl
  | highSchool =>
    have hbland : Text.IsBland "high school diploma".toList := by decide
    exact Text.escape_eq_self hbland
  | other => exact embedded_withEntities (h.isPlain (stated rfl))
  | none => rfl

end Degree

namespace Layout

theorem fieldClause_withEntities {v : Value} (h : v.IsPlainOrNull) :
    fieldClause .escape v = fieldClause .verbatim v.withEntities := by
  rw [fieldClause, fieldClause, Value.truthy_withEntities]
  split
  next ht => rw [embedded_withEntities (h.isPlain ht)]
  next => rfl

theorem degreeClause_withEntities {d : Degree} (h : d.subject.IsPlainOrNull) :
    degreeClause .escape d = degreeClause .verbatim d.withEntities := by
  rw [degreeClause, degreeClause, Degree.describe_withEntities h]
  rfl

end Layout

theorem Education.sentence_withEntities {e : Education} (h : e.IsPlain) :
    Layout.educationSentence .escape e = Layout.educationSentence .verbatim e.withEntities :=
  Layout.educationSentence_related additive_eq (embedded_withEntities h.school) rfl rfl
    (Layout.fieldClause_withEntities h.field) (Layout.degreeClause_withEntities h.subject)

theorem Work.sentence_withEntities {w : Work} (h : w.IsPlain) :
    Layout.workSentence .escape w = Layout.workSentence .verbatim w.withEntities :=
  Layout.workSentence_related additive_eq (embedded_withEntities h.position)
    (embedded_withEntities h.company) rfl rfl

theorem Skill.level_withEntities (s : Skill) :
    Option.Rel (Proficiency.Matches Eq .escape .verbatim) s.level s.withEntities.level := by
  have hlevel : s.withEntities.level = s.level := rfl
  rw [hlevel]
  cases s.level with
  | none => exact .none
  | some p => exact .some ⟨rfl, by cases p <;> exact Layout.embedded_text_eq (by decide) .escape⟩

theorem Skill.matches_withEntities {s : Skill} (h : s.label.IsPlain) :
    s.Matches Eq .escape .verbatim s.withEntities where
  label := asText_withEntities h
  level := s.level_withEntities

namespace Resume

theorem escape_fullName {r : Resume} (hr : r.IsPlain) :
    Text.escape r.fullName = r.withEntities.fullName := by
  obtain ⟨first, hfirst⟩ := hr.firstName
  obtain ⟨last, hlast⟩ := hr.lastName
  have hspace : Text.escape " " = " " := Text.escape_eq_self (by decide)
  simp only [fullName, withEntities, hfirst, hlast, Value.withEntities_text, Value.printed_text,
    Text.escape_append, hspace]

theorem forall₂_map_of_mem {α : Type} {S : α → α → Prop} {f : α → α} {as : List α}
    (h : ∀ a ∈ as, S a (f a)) : List.Forall₂ S as (as.map f) := by
  rw [List.forall₂_map_right_iff, List.forall₂_same]
  exact h

theorem matches_withEntities {r : Resume} (hr : r.IsPlain) :
    r.Matches Eq .escape .verbatim r.withEntities where
  fullName := escape_fullName hr
  profession := asText_withEntities hr.profession
  description := asText_withEntities hr.description
  links := Contact.links_withEntities hr.contact
  skills := forall₂_map_of_mem fun s hs => Skill.matches_withEntities (hr.skills s hs)
  education := forall₂_map_of_mem fun e he => Education.sentence_withEntities (hr.education e he)
  work := forall₂_map_of_mem fun w hw => Work.sentence_withEntities (hr.work w hw)

end Resume

namespace Page

/-- Escaping a page is showing the resume with its texts escaped. -/
theorem escape_eq_verbatim_withEntities {t : PaletteTheme} (ht : t.IsSpellable) {r : Resume}
    (hr : r.IsPlain) (hs : r.IsSpellable) :
    ∃ page, ofResume t .escape .escape r = .ok page ∧
      ofResume t .verbatim .verbatim r.withEntities = .ok page := by
  obtain ⟨page, page', hpage, hpage', rfl⟩ :=
    exists_related_pages additive_eq ht hs hs.withEntities (Resume.matches_withEntities hr)
  exact ⟨page, hpage, hpage'⟩

theorem escape_eq_verbatim_withEntities_saying :
    ∃ page, ofResume (PaletteTheme.monochrome .dark) .escape .escape
        (.saying "<b id=\x22x\x22>R&amp;D" (by decide)) = .ok page ∧
      ofResume (PaletteTheme.monochrome .dark) .verbatim .verbatim
        (Resume.saying "<b id=\x22x\x22>R&amp;D" (by decide)).withEntities = .ok page :=
  escape_eq_verbatim_withEntities (PaletteTheme.isSpellable_monochrome _)
    (Resume.isPlain_saying _ _) (Resume.isSpellable_saying _ _)

end Page

end ResumePress
