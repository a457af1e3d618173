import ResumePress.Proofs.Number.Decimal
import ResumePress.Proofs.Page.Correspondence
import ResumePress.Proofs.Resume.Plain

/-!
# No text opens or closes a tag

Under escaping, the tags and quotes of a page are those of the layout. Two plain resumes with the
same filled fields and as many entries have pages with the same marks in the same order, whatever
their texts say.
-/
namespace ResumePress

/-! ## Marks of texts put together -/

namespace Text

theorem marks_append (s t : String) : marks (s ++ t) = marks s ++ marks t := by
  rw [marks, String.toList_append, List.filter_append]
  rfl

def SameMarks (s t : String) : Prop :=
  marks s = marks t

theorem additive_sameMarks : Additive SameMarks where
  refl _ := rfl
  append hab hcd := by rw [SameMarks, marks_append, marks_append, hab, hcd]

end Text

open Text (SameMarks marks additive_sameMarks)

theorem marks_embedded {v : Value} (h : v.IsPlain) : marks (v.embedded .escape) = [] := by
  obtain ⟨s, rfl⟩ := h
  exact Text.marks_of_isUnmarked (Text.isUnmarked_escape s)

theorem sameMarks_embedded {v w : Value} (hv : v.IsPlain) (hw : w.IsPlain) :
    SameMarks (v.embedded .escape) (w.embedded .escape) :=
  (marks_embedded hv).trans (marks_embedded hw).symm

theorem sameMarks_printed {v w : Whole} (hv : 0 ≤ v.amount) (hw : 0 ≤ w.amount) :
    SameMarks v.printed w.printed :=
  (Text.marks_of_isUnmarked (Whole.isUnmarked_printed hv)).trans
    (Text.marks_of_isUnmarked (Whole.isUnmarked_printed hw)).symm

/-! ## The shape of a resume -/

/-- What of a resume decides on the layout of its page: which contact fields are filled, which
skills have a level, which times at school have a field or a degree, and how many entries there
are. -/
structure Shape where
  contact : List Bool
  skills : List Bool
  education : List (Bool × Bool)
  work : Nat
  deriving DecidableEq

def Contact.isFilled (field : Option Wording) : Bool :=
  field.any (fun w => !w.content.isEmpty)

def Resume.shape (r : Resume) : Shape where
  contact := r.contact.fields.map Contact.isFilled
  skills := r.skills.map (fun s => s.level.isSome)
  education := r.education.map (fun e => (e.field.truthy, e.degree.isPresent))
  work := r.work.length

/-- Entries that agree in what the shape says of them are related one by one. -/
theorem forall₂_of_map_eq {α β : Type} {f : α → β} {S : α → α → Prop} {as bs : List α}
    (h : as.map f = bs.map f) (hS : ∀ a ∈ as, ∀ b ∈ bs, f a = f b → S a b) :
    List.Forall₂ S as bs := by
  induction as generalizing bs with
  | nil =>
    cases bs with
    | nil => exact .nil
    | cons b bs => cases h
  | cons a as ih =>
    cases bs with
    | nil => cases h
    | cons b bs =>
      obtain ⟨hab, htail⟩ := List.cons.inj h
      exact .cons (hS a (by simp) b (by simp) hab)
        (ih htail fun a ha b hb => hS a (by simp [ha]) b (by simp [hb]))

/-! ## Resumes of one shape -/

namespace Contact

theorem isSome_link? (address : Wording → Wording) (field : Option Wording) :
    (link? address field).isSome = isFilled field := by
  cases field with
  | none => rfl
  | some w =>
    rw [link?, isFilled, Option.any_some]
    cases w.content.isEmpty <;> rfl

theorem link?_related (address : Wording → Wording)
    (haddress : ∀ s, (address (.plain s)).IsPlain) {field field' : Option Wording}
    (hf : ∀ w ∈ field, w.IsPlain) (hf' : ∀ w ∈ field', w.IsPlain)
    (h : isFilled field = isFilled field') :
    Option.Rel (ContactLink.Matches SameMarks .escape .escape) (link? address field)
      (link? address field') := by
  have hl := link?_isPlain address haddress hf
  have hl' := link?_isPlain address haddress hf'
  rw [← isSome_link? address, ← isSome_link? address] at h
  generalize link? address field = a at h hl ⊢
  generalize link? address field' = b at h hl' ⊢
  cases a <;> cases b
  · exact .none
  · cases h
  · cases h
  · exact .some ⟨sameMarks_embedded (hl _ rfl).label.toValue (hl' _ rfl).label.toValue,
      sameMarks_embedded (hl _ rfl).address.toValue (hl' _ rfl).address.toValue⟩

theorem links_related {c c' : Contact} (hc : c.IsPlain) (hc' : c'.IsPlain)
    (h : c.fields.map isFilled = c'.fields.map isFilled) :
    List.Forall₂ (ContactLink.Matches SameMarks .escape .escape) c.links c'.links := by
  simp only [fields, List.map_cons, List.map_nil, List.cons.injEq, and_true] at h
  obtain ⟨hemail, hphone, hwebsite, hgithub, hlinkedin⟩ := h
  apply links_matches
  · exact link?_related emailAddress (Wording.prependOnce_isPlain _) hc.email hc'.email hemail
  · exact link?_related phoneAddress (fun _ => Wording.prependOnce_isPlain _ _) hc.phone hc'.phone
      hphone
  · exact link?_related websiteAddress (Wording.completed_isPlain _) hc.website hc'.website
      hwebsite
  · exact link?_related githubAddress (Wording.completed_isPlain _) hc.github hc'.github hgithub
  · exact link?_related linkedinAddress (Wording.completed_isPlain _) hc.linkedin hc'.linkedin
      hlinkedin

end Contact

namespace Layout

open Page

theorem fieldClause_related {v w : Value} (hv : v.IsPlainOrNull) (hw : w.IsPlainOrNull)
    (h : v.truthy = w.truthy) : SameMarks (fieldClause .escape v) (fieldClause .escape w) := by
  rw [fieldClause, fieldClause, ← h]
  split
  next ht =>
    exact additive_sameMarks.append rfl
      (sameMarks_embedded (hv.isPlain ht) (hw.isPlain (h ▸ ht)))
  next => rfl

theorem degreeClause_related {d d' : Degree} (hd : d.subject.IsPlainOrNull)
    (hd' : d'.subject.IsPlainOrNull) (h : d.isPresent = d'.isPresent) :
    SameMarks (degreeClause .escape d) (degreeClause .escape d') := by
  rw [degreeClause, degreeClause, ← h]
  split
  next =>
    exact additive_sameMarks.append rfl
      (sameMarks_embedded (Degree.describe_isPlain hd) (Degree.describe_isPlain hd'))
  next => rfl

theorem sentences_related {e e' : Education} (he : e.IsPlain) (he' : e'.IsPlain)
    (h : (e.field.truthy, e.degree.isPresent) = (e'.field.truthy, e'.degree.isPresent)) :
    SameMarks (educationSentence .escape e) (educationSentence .escape e') :=
  educationSentence_related additive_sameMarks (sameMarks_embedded he.school he'.school)
    (sameMarks_printed e.years.nonneg e'.years.nonneg)
    (sameMarks_printed e.years.finish_nonneg e'.years.finish_nonneg)
    (fieldClause_related he.field he'.field (Prod.mk.inj h).1)
    (degreeClause_related he.subject he'.subject (Prod.mk.inj h).2)

end Layout

theorem Skill.related_of_level {s s' : Skill} (hs : s.label.IsPlain) (hs' : s'.label.IsPlain)
    (h : s.level.isSome = s'.level.isSome) : s.Matches SameMarks .escape .escape s' where
  label := by
    rw [hs.asText_eq, hs'.asText_eq]
    exact sameMarks_embedded hs hs'
  level := by
    generalize s.level = a at h ⊢
    generalize s'.level = b at h ⊢
    cases a <;> cases b
    · exact .none
    · cases h
    · cases h
    · exact .some ⟨sameMarks_printed (Percent.nonneg _) (Percent.nonneg _),
        sameMarks_embedded ⟨_, rfl⟩ ⟨_, rfl⟩⟩

theorem Resume.related_of_shape_eq {r r' : Resume} (hr : r.IsPlain) (hr' : r'.IsPlain)
    (h : r.shape = r'.shape) : r.Matches SameMarks .escape .escape r' := by
  simp only [Resume.shape, Shape.mk.injEq] at h
  obtain ⟨hcontact, hskills, heducation, hwork⟩ := h
  have hunit : r.work.map (fun _ => ()) = r'.work.map (fun _ => ()) := by
    rw [List.map_const', List.map_const', hwork]
  exact {
    fullName := sameMarks_embedded ⟨_, rfl⟩ ⟨_, rfl⟩
    profession := by
      rw [hr.profession.asText_eq, hr'.profession.asText_eq]
      exact sameMarks_embedded hr.profession hr'.profession
    description := by
      rw [hr.description.asText_eq, hr'.description.asText_eq]
      exact sameMarks_embedded hr.description hr'.description
    links := Contact.links_related hr.contact hr'.contact hcontact
    skills := forall₂_of_map_eq hskills fun s hs s' hs' =>
      Skill.related_of_level (hr.skills s hs) (hr'.skills s' hs')
    education := forall₂_of_map_eq heducation fun e he e' he' =>
      Layout.sentences_related (hr.education e he) (hr'.education e' he')
    work := forall₂_of_map_eq hunit fun w hw w' hw' _ =>
      Layout.workSentence_related additive_sameMarks
        (sameMarks_embedded (hr.work w hw).position (hr'.work w' hw').position)
        (sameMarks_embedded (hr.work w hw).company (hr'.work w' hw').company)
        (sameMarks_printed w.years.nonneg w'.years.nonneg)
        (sameMarks_printed w.years.finish_nonneg w'.years.finish_nonneg) }

namespace Page

/-- Two plain resumes of one shape have pages with the same marks in the same order, whatever their
texts are. -/
theorem marks_eq_of_shape_eq {t : PaletteTheme} (ht : t.IsSpellable) {r r' : Resume}
    (hr : r.IsPlain) (hr' : r'.IsPlain) (hs : r.IsSpellable) (hs' : r'.IsSpellable)
    (h : r.shape = r'.shape) :
    ∃ page page', ofResume t .escape .escape r = .ok page ∧
      ofResume t .escape .escape r' = .ok page' ∧ marks page = marks page' :=
  exists_related_pages additive_sameMarks ht hs hs' (Resume.related_of_shape_eq hr hr' h)

/-- Text that tries to close a tag and to leave an attribute, against text that does not. -/
theorem marks_eq_of_shape_eq_saying :
    ∃ page page', ofResume (PaletteTheme.monochrome .dark) .escape .escape
        (.saying "\x22></p><script>'" (by decide)) = .ok page ∧
      ofResume (PaletteTheme.monochrome .dark) .escape .escape (.saying "Ada" (by decide)) =
        .ok page' ∧
      marks page = marks page' :=
  marks_eq_of_shape_eq (PaletteTheme.isSpellable_monochrome _) (Resume.isPlain_saying _ _)
    (Resume.isPlain_saying _ _) (Resume.isSpellable_saying _ _) (Resume.isSpellable_saying _ _)
    (by decide)

end Page

end ResumePress
