import ResumePress.Resume.Layout

/-!
# Plain resumes

A resume is plain if none of its texts claims to be markup. Everything that the layout makes of
plain texts is plain again: the addresses of contact links, and the words for a degree.
-/
namespace ResumePress

def Value.IsPlain (v : Value) : Prop :=
  ∃ s, v = .text s

def Value.IsPlainOrNull (v : Value) : Prop :=
  v = .null ∨ v.IsPlain

theorem Value.IsPlainOrNull.isPlain {v : Value} (h : v.IsPlainOrNull) (ht : v.truthy = true) :
    v.IsPlain := by
  rcases h with rfl | h
  · exact absurd ht Bool.false_ne_true
  · exact h

theorem Value.IsPlain.asText_eq {v : Value} (h : v.IsPlain) : v.asText = v := by
  obtain ⟨s, rfl⟩ := h
  rfl

def Wording.IsPlain (w : Wording) : Prop :=
  ∃ s, w = .plain s

theorem Wording.IsPlain.toValue {w : Wording} (h : w.IsPlain) : w.toValue.IsPlain := by
  obtain ⟨s, rfl⟩ := h
  exact ⟨s, rfl⟩

theorem Years.finish_nonneg (y : Years) : 0 ≤ y.finish.amount :=
  Int.le_trans y.nonneg y.ordered

structure Education.IsPlain (e : Education) : Prop where
  school : e.school.IsPlain
  field : e.field.IsPlainOrNull
  subject : e.degree.subject.IsPlainOrNull

structure Work.IsPlain (w : Work) : Prop where
  position : w.position.IsPlain
  company : w.company.IsPlain

structure Contact.IsPlain (c : Contact) : Prop where
  email : ∀ w ∈ c.email, w.IsPlain
  phone : ∀ w ∈ c.phone, w.IsPlain
  website : ∀ w ∈ c.website, w.IsPlain
  github : ∀ w ∈ c.github, w.IsPlain
  linkedin : ∀ w ∈ c.linkedin, w.IsPlain

/-- No text of the resume claims to be markup. What a work entry was about is not shown. -/
structure Resume.IsPlain (r : Resume) : Prop where
  firstName : r.firstName.IsPlain
  lastName : r.lastName.IsPlain
  profession : r.profession.IsPlain
  description : r.description.IsPlain
  contact : r.contact.IsPlain
  skills : ∀ s ∈ r.skills, s.label.IsPlain
  education : ∀ e ∈ r.education, e.IsPlain
  work : ∀ w ∈ r.work, w.IsPlain

/-- The plain resume that says `s` wherever it says anything, with an entry of every form. -/
def Resume.saying (s : String) (h : s.isEmpty = false) : Resume :=
  let years : Years := ⟨.int 1999, .int 2003, by decide, by decide⟩
  { firstName := .text s
    lastName := .text s
    profession := .text s
    description := .text s
    contact := ⟨some (.plain s), some (.plain s), some (.plain s), some (.plain s), some (.plain s)⟩
    skills := [⟨.text s, some .strong⟩, ⟨.text s, none⟩]
    education := [
      ⟨years, .text s, .text s, ⟨.bachelor, .text s, fun _ => by simp [Value.truthy, h]⟩⟩,
      ⟨years, .text s, .null, .absent⟩]
    work := [⟨years, .text s, .text s, .null⟩] }

theorem Resume.isPlain_saying (s : String) (h : s.isEmpty = false) : (saying s h).IsPlain := by
  have hfield : ∀ w ∈ some (Wording.plain s), w.IsPlain := by
    intro w hw
    exact ⟨s, (Option.mem_some.mp hw).symm⟩
  constructor
  case contact => exact ⟨hfield, hfield, hfield, hfield, hfield⟩
  case skills =>
    intro k hk
    simp only [saying, List.mem_cons, List.not_mem_nil, or_false] at hk
    rcases hk with rfl | rfl <;> exact ⟨s, rfl⟩
  case education =>
    intro e he
    simp only [saying, List.mem_cons, List.not_mem_nil, or_false] at he
    rcases he with rfl | rfl
    · exact ⟨⟨s, rfl⟩, .inr ⟨s, rfl⟩, .inr ⟨s, rfl⟩⟩
    · exact ⟨⟨s, rfl⟩, .inl rfl, .inl rfl⟩
  case work =>
    intro w hw
    simp only [saying, List.mem_cons, List.not_mem_nil, or_false] at hw
    subst hw
    exact ⟨⟨s, rfl⟩, ⟨s, rfl⟩⟩
  all_goals exact ⟨s, rfl⟩

namespace Degree

/-- A subject that is shown on its own has to be there. -/
theorem describe_isPlain {d : Degree} (h : d.subject.IsPlainOrNull) : d.describe.IsPlain := by
  obtain ⟨kind, subject, stated⟩ := d
  cases kind with
  | other => exact h.isPlain (stated rfl)
  | highSchool => exact ⟨_, rfl⟩
  | none => exact ⟨_, rfl⟩
  | _ => exact ⟨_, rfl⟩

end Degree

namespace Wording

theorem prependOnce_isPlain (opening s : String) :
    (prependOnce (.plain opening) (.plain s)).IsPlain := by
  unfold prependOnce
  split
  · exact ⟨s, rfl⟩
  · exact ⟨opening ++ s, rfl⟩

theorem completed_isPlain (opening s : String) : (completed opening (.plain s)).IsPlain := by
  unfold completed
  split
  · exact ⟨s, rfl⟩
  · exact prependOnce_isPlain opening s

end Wording

structure ContactLink.IsPlain (l : ContactLink) : Prop where
  label : l.label.IsPlain
  address : l.address.IsPlain

namespace Contact

/-- A plain field has a plain link if plain text has a plain address. -/
theorem link?_isPlain (address : Wording → Wording) (h : ∀ s, (address (.plain s)).IsPlain)
    {field : Option Wording} (hf : ∀ w ∈ field, w.IsPlain) :
    ∀ l ∈ link? address field, l.IsPlain := by
  intro l hl
  cases field with
  | none => cases hl
  | some w =>
    obtain ⟨s, rfl⟩ := hf w rfl
    rw [link?] at hl
    split at hl
    · cases hl
    · cases hl
      exact ⟨⟨s, rfl⟩, h s⟩

theorem links_isPlain {c : Contact} (hc : c.IsPlain) : ∀ l ∈ c.links, l.IsPlain := by
  intro l hl
  obtain ⟨a, ha, rfl⟩ := List.mem_filterMap.mp hl
  simp only [List.mem_cons, List.not_mem_nil, or_false] at ha
  rcases ha with ha | ha | ha | ha | ha
  · exact link?_isPlain emailAddress (Wording.prependOnce_isPlain _) hc.email l ha.symm
  · exact link?_isPlain phoneAddress (fun _ => Wording.prependOnce_isPlain _ _) hc.phone l ha.symm
  · exact link?_isPlain websiteAddress (Wording.completed_isPlain _) hc.website l ha.symm
  · exact link?_isPlain githubAddress (Wording.completed_isPlain _) hc.github l ha.symm
  · exact link?_isPlain linkedinAddress (Wording.completed_isPlain _) hc.linkedin l ha.symm

end Contact

end ResumePress
