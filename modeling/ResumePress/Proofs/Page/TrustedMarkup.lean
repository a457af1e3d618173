import ResumePress.Proofs.Page.EscapedOnce
import ResumePress.Proofs.Page.Replacement
import ResumePress.Proofs.Resume.Assembly

/-!
# Trusted markup on a page

Under escaping a text that is trusted stands on the page as it is, and a plain one is escaped. The
mark that says which is which goes with the text through the layout, but not where a text is joined
with other words first: the two names make the title, and a subject stands behind the opening of its
degree. There the mark is lost, and what was trusted is escaped like a plain text.
-/
namespace ResumePress

open Text (EscapePolicy)

/-! ## Resumes whose texts may be trusted -/

def Value.IsWording (v : Value) : Prop :=
  ∃ w : Wording, v = w.toValue

/-- A text, plain or trusted, or nothing at all. -/
def Value.IsWordingOrNull (v : Value) : Prop :=
  v = .null ∨ v.IsWording

theorem Value.IsWordingOrNull.isWording {v : Value} (h : v.IsWordingOrNull)
    (ht : v.truthy = true) : v.IsWording := by
  rcases h with rfl | h
  · exact absurd ht Bool.false_ne_true
  · exact h

structure Education.IsWorded (e : Education) : Prop where
  school : e.school.IsWording
  field : e.field.IsWordingOrNull
  subject : e.degree.subject.IsWordingOrNull

structure Work.IsWorded (w : Work) : Prop where
  position : w.position.IsWording
  company : w.company.IsWording

/-- All that the resume says is text, plain or trusted. -/
structure Resume.IsWorded (r : Resume) : Prop where
  firstName : r.firstName.IsWording
  lastName : r.lastName.IsWording
  profession : r.profession.IsWording
  description : r.description.IsWording
  skills : ∀ s ∈ r.skills, s.label.IsWording
  education : ∀ e ∈ r.education, e.IsWorded
  work : ∀ w ∈ r.work, w.IsWorded

/-! ## Escaping what is plain -/

/-- A contact field with its markup characters escaped, unless it is trusted. -/
def Wording.withPlainEntities : Wording → Wording
  | plain s => plain (Text.withEntities s)
  | trusted s => trusted s

def Contact.withPlainEntities (c : Contact) : Contact where
  email := c.email.map Wording.withPlainEntities
  phone := c.phone.map Wording.withPlainEntities
  website := c.website.map Wording.withPlainEntities
  github := c.github.map Wording.withPlainEntities
  linkedin := c.linkedin.map Wording.withPlainEntities

/-- The resume with every plain text escaped that a page shows, and every trusted one as it is. -/
def Resume.withPlainEntities (r : Resume) : Resume :=
  { r.withEntities with contact := r.contact.withPlainEntities }

/-! ## Texts that are joined with others -/

def Value.unmarked : Value → Value
  | .trusted s => .text s
  | v => v

theorem Value.truthy_unmarked (v : Value) : v.unmarked.truthy = v.truthy := by
  cases v <;> rfl

/-- The degree with its subject unmarked if an opening comes before it. -/
def Degree.asJoined (d : Degree) : Degree where
  kind := d.kind
  subject := if d.kind.opening?.isSome then d.subject.unmarked else d.subject
  stated h := by
    split
    · rw [Value.truthy_unmarked]
      exact d.stated h
    · exact d.stated h

def Education.asJoined (e : Education) : Education :=
  { e with degree := e.degree.asJoined }

/-- The resume as it is read for its page: what is joined with other words is unmarked. -/
def Resume.asJoined (r : Resume) : Resume :=
  { r with
    firstName := r.firstName.unmarked
    lastName := r.lastName.unmarked
    education := r.education.map Education.asJoined }

theorem Value.isSpellable_unmarked (v : Value) : v.unmarked.isSpellable = v.isSpellable := by
  cases v <;> rfl

theorem Education.IsSpellable.asJoined {e : Education} (h : e.IsSpellable) :
    e.asJoined.IsSpellable where
  years := h.years
  school := h.school
  field := h.field
  subject hk := by
    change (if e.degree.kind.opening?.isSome then e.degree.subject.unmarked
      else e.degree.subject).isSpellable = true
    split
    · rw [Value.isSpellable_unmarked]
      exact h.subject hk
    · exact h.subject hk

theorem Resume.IsSpellable.asJoined {r : Resume} (h : r.IsSpellable) : r.asJoined.IsSpellable :=
  { h with
    firstName := r.firstName.isSpellable_unmarked.trans h.firstName
    lastName := r.lastName.isSpellable_unmarked.trans h.lastName
    education := List.forall_mem_map.mpr fun e he => (h.education e he).asJoined }

theorem Resume.IsSpellable.withPlainEntities {r : Resume} (h : r.IsSpellable) :
    r.withPlainEntities.IsSpellable :=
  { h.withEntities with }

/-! ## What keeps its mark -/

namespace Value

variable {v : Value}

theorem IsWording.embedded_withEntities (h : v.IsWording) :
    v.embedded .escape = v.withEntities.embedded .verbatim := by
  obtain ⟨w, rfl⟩ := h
  cases w with
  | plain s => exact ResumePress.embedded_withEntities ⟨s, rfl⟩
  | trusted s => rfl

theorem IsWording.asText_withEntities (h : v.IsWording) :
    v.asText.embedded .escape = v.withEntities.asText.embedded .verbatim := by
  obtain ⟨w, rfl⟩ := h
  cases w with
  | plain s => exact ResumePress.asText_withEntities ⟨s, rfl⟩
  | trusted s => rfl

/-- A text that lost its mark is escaped. -/
theorem IsWording.printed_unmarked (h : v.IsWording) :
    v.unmarked.withEntities.printed = Text.escape v.printed := by
  obtain ⟨w, rfl⟩ := h
  cases w with
  | plain s => exact congrArg printed (withEntities_text s)
  | trusted s => exact congrArg printed (withEntities_text s)

end Value

namespace Wording

def IsTrusted (w : Wording) : Prop :=
  ∃ s, w = .trusted s

theorem prependOnce_isTrusted (opening s : String) :
    (prependOnce (.plain opening) (.trusted s)).IsTrusted := by
  unfold prependOnce
  split
  · exact ⟨s, rfl⟩
  · exact ⟨Text.escape opening ++ s, rfl⟩

theorem completed_isTrusted (opening s : String) : (completed opening (.trusted s)).IsTrusted := by
  unfold completed
  split
  · exact ⟨s, rfl⟩
  · exact prependOnce_isTrusted opening s

theorem IsTrusted.embedded_toValue {w : Wording} (h : w.IsTrusted) :
    w.toValue.embedded .escape = w.toValue.embedded .verbatim := by
  obtain ⟨s, rfl⟩ := h
  rfl

end Wording

namespace Contact

/-- A trusted field has a trusted address, so label and address stand as they are. -/
theorem link?_withPlainEntities {address : Wording → Wording} (field : Option Wording)
    (hplain : ∀ s, (address (.plain s)).IsPlain) (htrusted : ∀ s, (address (.trusted s)).IsTrusted)
    (h : ∀ w : Wording, w.IsPlain → address w.withEntities = (address w).withEntities) :
    Option.Rel (ContactLink.Matches Eq .escape .verbatim) (link? address field)
      (link? address (field.map Wording.withPlainEntities)) := by
  cases field with
  | none => exact .none
  | some w =>
    cases w with
    | plain s =>
      have hs : ∀ w ∈ some (Wording.plain s), w.IsPlain := by
        rintro w ⟨⟩
        exact ⟨s, rfl⟩
      have hentities : (Wording.plain s).withPlainEntities = (Wording.plain s).withEntities := rfl
      rw [Option.map_some, hentities]
      exact link?_withEntities hs hplain h
    | trusted s =>
      rw [Option.map_some, Wording.withPlainEntities, link?]
      split
      · exact .none
      · exact .some ⟨rfl, (htrusted s).embedded_toValue⟩

theorem links_withPlainEntities (c : Contact) :
    List.Forall₂ (ContactLink.Matches Eq .escape .verbatim) c.links c.withPlainEntities.links := by
  apply links_matches
  · exact link?_withPlainEntities c.email (Wording.prependOnce_isPlain _)
      (Wording.prependOnce_isTrusted _) fun _ => Wording.prependOnce_withEntities (by decide)
  · exact link?_withPlainEntities c.phone (fun _ => Wording.prependOnce_isPlain _ _)
      (fun _ => Wording.prependOnce_isTrusted _ _) fun _ => phoneAddress_withEntities
  · exact link?_withPlainEntities c.website (Wording.completed_isPlain _)
      (Wording.completed_isTrusted _) fun _ => Wording.completed_withEntities (by decide)
  · exact link?_withPlainEntities c.github (Wording.completed_isPlain _)
      (Wording.completed_isTrusted _) fun _ => Wording.completed_withEntities (by decide)
  · exact link?_withPlainEntities c.linkedin (Wording.completed_isPlain _)
      (Wording.completed_isTrusted _) fun _ => Wording.completed_withEntities (by decide)

end Contact

/-! ## What loses its mark -/

theorem Resume.escape_fullName_asJoined {r : Resume} (hr : r.IsWorded) :
    Text.escape r.fullName = r.asJoined.withPlainEntities.fullName := by
  have hspace : Text.escape " " = " " := Text.escape_eq_self (by decide)
  change Text.escape (r.firstName.printed ++ " " ++ r.lastName.printed) =
    r.firstName.unmarked.withEntities.printed ++ " " ++ r.lastName.unmarked.withEntities.printed
  rw [hr.firstName.printed_unmarked, hr.lastName.printed_unmarked, Text.escape_append,
    Text.escape_append, hspace]

namespace Degree

variable {d : Degree}

/-- A subject behind an opening is escaped, trusted or not; a subject on its own keeps its mark. -/
theorem describe_asJoined (h : d.subject.IsWordingOrNull) :
    d.describe.embedded .escape = d.asJoined.withEntities.describe.embedded .verbatim := by
  obtain ⟨kind, subject, stated⟩ := d
  have hwords : ∀ opening : String, Text.IsBland opening.toList →
      kind.needsSubject = true → Text.escape (opening ++ " " ++ subject.printed) =
        opening ++ " " ++ subject.unmarked.withEntities.printed := by
    intro opening ho hk
    have hspace : Text.escape " " = " " := Text.escape_eq_self (by decide)
    rw [(h.isWording (stated hk)).printed_unmarked, Text.escape_append, Text.escape_append,
      Text.escape_eq_self ho, hspace]
  cases kind with
  | associate | bachelor | master | doctorate => exact hwords _ (by decide) rfl
  | highSchool =>
    have hbland : Text.IsBland "high school diploma".toList := by decide
    exact Text.escape_eq_self hbland
  | other => exact (h.isWording (stated rfl)).embedded_withEntities
  | none => rfl

end Degree

theorem Education.sentence_asJoined {e : Education} (h : e.IsWorded) :
    Layout.educationSentence .escape e =
      Layout.educationSentence .verbatim e.asJoined.withEntities := by
  refine Layout.educationSentence_related additive_eq h.school.embedded_withEntities rfl rfl ?_ ?_
  · change Layout.fieldClause .escape e.field = Layout.fieldClause .verbatim e.field.withEntities
    rw [Layout.fieldClause, Layout.fieldClause, Value.truthy_withEntities]
    split
    next ht => rw [(h.field.isWording ht).embedded_withEntities]
    next => rfl
  · rw [Layout.degreeClause, Layout.degreeClause, Degree.describe_asJoined h.subject]
    rfl

theorem Work.sentence_of_isWorded {w : Work} (h : w.IsWorded) :
    Layout.workSentence .escape w = Layout.workSentence .verbatim w.withEntities :=
  Layout.workSentence_related additive_eq h.position.embedded_withEntities
    h.company.embedded_withEntities rfl rfl

namespace Resume

theorem matches_asJoined {r : Resume} (hr : r.IsWorded) :
    r.Matches Eq .escape .verbatim r.asJoined.withPlainEntities where
  fullName := escape_fullName_asJoined hr
  profession := hr.profession.asText_withEntities
  description := hr.description.asText_withEntities
  links := r.contact.links_withPlainEntities
  skills := forall₂_map_of_mem fun s hs =>
    ⟨(hr.skills s hs).asText_withEntities, s.level_withEntities⟩
  education := by
    change List.Forall₂ _ r.education
      ((r.education.map Education.asJoined).map Education.withEntities)
    rw [List.map_map]
    exact forall₂_map_of_mem fun e he => Education.sentence_asJoined (hr.education e he)
  work := forall₂_map_of_mem fun w hw => Work.sentence_of_isWorded (hr.work w hw)

end Resume

/-! ## Resumes that lose no mark -/

def Value.IsTrusted (v : Value) : Prop :=
  ∃ s, v = .trusted s

theorem Value.unmarked_eq_self_iff {v : Value} : v.unmarked = v ↔ ¬ v.IsTrusted := by
  cases v <;> simp [unmarked, IsTrusted]

/-- Nothing that is joined with other words is trusted. -/
structure Resume.KeepsMarks (r : Resume) : Prop where
  firstName : ¬ r.firstName.IsTrusted
  lastName : ¬ r.lastName.IsTrusted
  subject : ∀ e ∈ r.education, e.degree.kind.opening?.isSome = true →
    ¬ e.degree.subject.IsTrusted

theorem Education.asJoined_eq_self_iff {e : Education} :
    e.asJoined = e ↔ (e.degree.kind.opening?.isSome = true → ¬ e.degree.subject.IsTrusted) := by
  obtain ⟨years, school, field, kind, subject, stated⟩ := e
  simp only [asJoined, Degree.asJoined, mk.injEq, Degree.mk.injEq, true_and]
  split
  next h => simp [h, Value.unmarked_eq_self_iff]
  next h => simp [h]

theorem Resume.asJoined_eq_self_iff {r : Resume} : r.asJoined = r ↔ r.KeepsMarks := by
  have hmap : r.education.map Education.asJoined = r.education ↔
      ∀ e ∈ r.education, e.asJoined = e := by
    conv_lhs => rhs; rw [← List.map_id r.education]
    exact List.map_inj_left
  have hfields : r.asJoined = r ↔ r.firstName.unmarked = r.firstName ∧
      r.lastName.unmarked = r.lastName ∧ r.education.map Education.asJoined = r.education := by
    constructor
    · intro h
      exact ⟨congrArg firstName h, congrArg lastName h, congrArg education h⟩
    · rintro ⟨hfirst, hlast, heducation⟩
      rw [asJoined, hfirst, hlast, heducation]
  rw [hfields, hmap, Value.unmarked_eq_self_iff, Value.unmarked_eq_self_iff]
  simp only [Education.asJoined_eq_self_iff]
  exact ⟨fun h => ⟨h.1, h.2.1, h.2.2⟩, fun h => ⟨h.firstName, h.lastName, h.subject⟩⟩

namespace Page

/-- Under escaping every plain text is escaped once and every trusted text stands as it is, but what
is joined with other words counts as plain. -/
theorem escape_eq_verbatim_asJoined {t : PaletteTheme} (ht : t.IsSpellable) {r : Resume}
    (hr : r.IsWorded) (hs : r.IsSpellable) :
    (∃ page, ofResume t .escape .escape r = .ok page ∧
      ofResume t .verbatim .verbatim r.asJoined.withPlainEntities = .ok page) ∧
    (r.asJoined = r ↔ r.KeepsMarks) := by
  obtain ⟨page, page', hpage, hpage', rfl⟩ := exists_related_pages additive_eq ht hs
    hs.asJoined.withPlainEntities (Resume.matches_asJoined hr)
  exact ⟨⟨page, hpage, hpage'⟩, Resume.asJoined_eq_self_iff⟩

def introducing (first profession : Value) : Resume where
  firstName := first
  lastName := .text "Lovelace"
  profession := profession
  description := .text ""
  contact := .absent
  skills := []
  education := []
  work := []

theorem isWorded_introducing (first profession : Wording) :
    (introducing first.toValue profession.toValue).IsWorded where
  firstName := ⟨first, rfl⟩
  lastName := ⟨.plain "Lovelace", rfl⟩
  profession := ⟨profession, rfl⟩
  description := ⟨.plain "", rfl⟩
  skills := nofun
  education := nofun
  work := nofun

theorem isSpellable_introducing (first profession : Wording) :
    (introducing first.toValue profession.toValue).IsSpellable where
  firstName := by cases first <;> rfl
  lastName := rfl
  profession := by cases profession <;> rfl
  description := rfl
  skills := nofun
  education := nofun
  work := nofun

theorem escape_eq_verbatim_asJoined_introducing :
    ∃ page, ofResume (PaletteTheme.monochrome .dark) .escape .escape
        (introducing (.text "R&D") (.trusted "<b>Poet</b>")) = .ok page ∧
      ofResume (PaletteTheme.monochrome .dark) .verbatim .verbatim
        (introducing (.text "R&amp;D") (.trusted "<b>Poet</b>")) = .ok page := by
  have hpage := (escape_eq_verbatim_asJoined (PaletteTheme.isSpellable_monochrome .dark)
    (isWorded_introducing (.plain "R&D") (.trusted "<b>Poet</b>"))
    (isSpellable_introducing (.plain "R&D") (.trusted "<b>Poet</b>"))).1
  have hentities : (introducing (.text "R&D") (.trusted "<b>Poet</b>")).asJoined.withPlainEntities =
      introducing (.text "R&amp;D") (.trusted "<b>Poet</b>") := by
    have hfirst : Text.escape "R&D" = "R&amp;D" := by decide +kernel
    have hlast : Text.escape "Lovelace" = "Lovelace" := Text.escape_eq_self (by decide)
    have hempty : Text.escape "" = "" := Text.escape_eq_self (by decide)
    simp only [Resume.withPlainEntities, Resume.withEntities, Resume.asJoined, introducing,
      Value.unmarked, Value.withEntities_text, hfirst, hlast, hempty]
    rfl
  rwa [← hentities]

def titlePosition : Position :=
  [0, 0, 0, 0, 0, 0, 0, 0]

/-- The names of a resume stand in its title, and the rest of its page does not depend on them. -/
theorem exists_markup_around_title {t : PaletteTheme} {policy : EscapePolicy} {r : Resume}
    {page : String} (hr : r.IsSpellable) (hpage : ofResume t policy policy r = .ok page) :
    ∃ before after : String, ∀ first last : Value, first.isSpellable = true →
      last.isSpellable = true →
      ofResume t policy policy { r with firstName := first, lastName := last } =
        .ok (before ++ within "<h1>" "</h1>"
          ((Value.text (first.printed ++ " " ++ last.printed)).embedded policy) ++ after) := by
  rw [ofResume_eq t _ _ hr] at hpage
  have hat : (Value.node (Layout.document policy r)).at? titlePosition =
      some (.node (.title (.text r.fullName))) := rfl
  have hdocument :
      renderValue t.toTheme policy (.node (Layout.document policy r)) = .ok page := hpage
  obtain ⟨before, after, h⟩ := frames_putAt t.wears_dress hdocument hat
  refine ⟨before, after, fun first last hfirst hlast => ?_⟩
  have hr' : Resume.IsSpellable { r with firstName := first, lastName := last } :=
    { hr with firstName := hfirst, lastName := hlast }
  rw [ofResume_eq t _ _ hr']
  exact h (.node (.title (.text (first.printed ++ " " ++ last.printed))))

/-- A trusted first name is escaped all the same. -/
theorem not_forall_escape_eq_withPlainEntities : ¬ ∀ (t : PaletteTheme) (r : Resume),
    t.IsSpellable → r.IsWorded → r.IsSpellable →
    ∃ page, ofResume t .escape .escape r = .ok page ∧
      ofResume t .verbatim .verbatim r.withPlainEntities = .ok page := by
  intro h
  let t := PaletteTheme.monochrome .dark
  let r := introducing (.trusted "<b>Ada</b>") (.text "")
  have ht : t.IsSpellable := PaletteTheme.isSpellable_monochrome .dark
  have hr : r.IsWorded := isWorded_introducing (.trusted "<b>Ada</b>") (.plain "")
  have hs : r.IsSpellable := isSpellable_introducing (.trusted "<b>Ada</b>") (.plain "")
  obtain ⟨page, hpage, hkept⟩ := h t r ht hr hs
  obtain ⟨_, _, hpage', hlost, rfl⟩ :=
    exists_related_pages additive_eq ht hs hs.asJoined.withPlainEntities
      (Resume.matches_asJoined hr)
  obtain ⟨before, after, htitle⟩ := exists_markup_around_title hs.withPlainEntities hkept
  -- both pages are that of the same resume but for the first name
  have hkept' := htitle (.trusted "<b>Ada</b>") (.text (Text.withEntities "Lovelace")) rfl rfl
  have hlost' := htitle (.text (Text.withEntities "<b>Ada</b>"))
    (.text (Text.withEntities "Lovelace")) rfl rfl
  have hsame := hkept'.symm.trans
    (hkept.trans (hpage.symm.trans (hpage'.trans (hlost.symm.trans hlost'))))
  have hlength := congrArg String.length (Except.ok.inj hsame)
  rw [String.length_append, String.length_append, String.length_append, String.length_append,
    Nat.add_right_cancel_iff, Nat.add_left_cancel_iff] at hlength
  revert hlength
  decide +kernel

end Page

end ResumePress
