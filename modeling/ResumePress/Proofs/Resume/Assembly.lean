import ResumePress.Page.Render
import ResumePress.Proofs.Number.Decimal
import ResumePress.Proofs.Resume.Plain
import ResumePress.Proofs.Steps
import ResumePress.Proofs.Text.Filling
import ResumePress.Resume.Assembly
import ResumePress.Theme.Palette

/-!
# Layouts are what is built

No builder refuses what a resume gives it, and no template lacks an argument: put together step by
step, the document of a resume is its layout, as long as the numbers in it can be spelled out.
-/
namespace ResumePress

open Text (EscapePolicy)

/-! ## What is spelled out for a page -/

structure Years.IsSpellable (y : Years) : Prop where
  start : y.start.isSpellable = true
  finish : y.finish.isSpellable = true

theorem Years.isSpellable_of_le {y : Years} (h : y.finish.amount ≤ 9999) : y.IsSpellable := by
  have hlarge : 9999 < unspelled := by decide +kernel
  have hyear : ∀ w : Whole, 0 ≤ w.amount → w.amount ≤ 9999 → w.isSpellable = true := by
    intro w hpos hle
    cases w with
    | int n =>
      rw [Whole.amount] at hpos hle
      simp only [Whole.isSpellable, decide_eq_true_eq]
      omega
    | level p => rfl
  exact ⟨hyear _ y.nonneg (Int.le_trans y.ordered h), hyear _ y.finish_nonneg h⟩

structure Education.IsSpellable (e : Education) : Prop where
  years : e.years.IsSpellable
  school : e.school.isSpellable = true
  field : e.field.isSpellable = true
  subject : e.degree.kind.needsSubject = true → e.degree.subject.isSpellable = true

structure Work.IsSpellable (w : Work) : Prop where
  years : w.years.IsSpellable
  position : w.position.isSpellable = true
  company : w.company.isSpellable = true

/-- What the page shows of the resume holds no number of more than 4300 digits. -/
structure Resume.IsSpellable (r : Resume) : Prop where
  firstName : r.firstName.isSpellable = true
  lastName : r.lastName.isSpellable = true
  profession : r.profession.isSpellable = true
  description : r.description.isSpellable = true
  skills : ∀ s ∈ r.skills, s.label.isSpellable = true
  education : ∀ e ∈ r.education, e.IsSpellable
  work : ∀ w ∈ r.work, w.IsSpellable

theorem Value.IsPlain.isSpellable {v : Value} (h : v.IsPlain) : v.isSpellable = true := by
  obtain ⟨s, rfl⟩ := h
  rfl

theorem Value.IsPlainOrNull.isSpellable {v : Value} (h : v.IsPlainOrNull) :
    v.isSpellable = true := by
  rcases h with rfl | h
  · rfl
  · exact h.isSpellable

/-- A plain resume has no numbers but years. -/
theorem Resume.IsPlain.isSpellable {r : Resume} (h : r.IsPlain)
    (heducation : ∀ e ∈ r.education, e.years.IsSpellable)
    (hwork : ∀ w ∈ r.work, w.years.IsSpellable) : r.IsSpellable where
  firstName := h.firstName.isSpellable
  lastName := h.lastName.isSpellable
  profession := h.profession.isSpellable
  description := h.description.isSpellable
  skills s hs := (h.skills s hs).isSpellable
  education e he :=
    { years := heducation e he
      school := (h.education e he).school.isSpellable
      field := (h.education e he).field.isSpellable
      subject := fun _ => (h.education e he).subject.isSpellable }
  work w hw :=
    { years := hwork w hw
      position := (h.work w hw).position.isSpellable
      company := (h.work w hw).company.isSpellable }

theorem Resume.isSpellable_saying (s : String) (h : s.isEmpty = false) :
    (saying s h).IsSpellable := by
  have hyears : Years.IsSpellable ⟨.int 1999, .int 2003, by decide, by decide⟩ :=
    Years.isSpellable_of_le (by decide)
  apply (isPlain_saying s h).isSpellable
  · simp [saying, hyears]
  · simp [saying, hyears]

/-- The years of a record are shown by their digits under every policy. -/
theorem Whole.embedded_toValue {w : Whole} (h : 0 ≤ w.amount) (policy : EscapePolicy) :
    w.toValue.embedded policy = w.printed := by
  have hprinted : w.toValue.printed = w.printed := by cases w <;> rfl
  cases policy with
  | verbatim => exact hprinted
  | escape =>
    have hescaped : w.toValue.escaped = Text.escape w.toValue.printed := by cases w <;> rfl
    change w.toValue.escaped = w.printed
    rw [hescaped, hprinted]
    exact Text.escape_eq_self fun c hc => Text.entity_of_isDigit (isDigit_of_mem_printed h hc)

theorem Whole.inPlace_toValue {w : Whole} (h : 0 ≤ w.amount) (hs : w.isSpellable = true)
    (policy : EscapePolicy) : w.toValue.inPlace policy = .ok w.printed := by
  rw [Value.inPlace_of_isSpellable (by rwa [Value.isSpellable_toValue]), embedded_toValue h]

/-- Where every scheme that counts fills a template, plain and trusted values are composed alike. -/
theorem Value.filled_text {template : String} {args : List Value} {sentence : EscapePolicy → String}
    (h : ∀ {σ : Type} {scheme : Text.Scheme σ} {IsAt : Nat → σ → Prop}, scheme.Counts IsAt →
      ∀ policy, Text.fill scheme (inPlace policy) args template = .ok (sentence policy))
    (policy : EscapePolicy) :
    filled policy (.text template) args = .ok (composed policy (sentence policy)) := by
  cases policy with
  | verbatim => exact congrArg (ofFilling text) (h Text.Scheme.counts_stated .verbatim)
  | escape => exact congrArg (ofFilling trusted) (h Text.Scheme.counts_counted .escape)

theorem Resume.nameInWords_eq {r : Resume} (h : r.IsSpellable) :
    r.nameInWords = .ok r.fullName := by
  rw [nameInWords, Value.spelled_of_isSpellable h.firstName,
    Value.spelled_of_isSpellable h.lastName]
  rfl

theorem Degree.inWords_eq {d : Degree}
    (h : d.kind.needsSubject = true → d.subject.isSpellable = true) :
    d.inWords = .ok d.describe := by
  unfold inWords
  cases hk : d.kind.opening? with
  | none => rfl
  | some opening =>
    have hneeds : d.kind.needsSubject = true := by
      cases hkind : d.kind <;> first | rfl | simp [hkind, DegreeKind.opening?] at hk
    simp [Value.spelled_of_isSpellable (h hneeds), Except.map]

/-- The words for a degree are a text of their own, or the subject. -/
theorem Degree.isSpellable_describe {d : Degree}
    (h : d.kind.needsSubject = true → d.subject.isSpellable = true) :
    d.describe.isSpellable = true := by
  obtain ⟨kind, subject, stated⟩ := d
  cases kind with
  | other => exact h rfl
  | _ => rfl

namespace Assembly

/-! ## Builders -/

theorem asChildren_together (ns : List Node) :
    (together ns).asChildren = .ok (Layout.nodes ns) := by
  change (ns.map Value.node).mapM Value.asChild = _
  rw [List.mapM_map]
  exact mapM_eq_ok (fun n _ => rfl)

theorem build_row (ns : List Node) :
    Node.build "row" [together ns] = .ok (.row (Layout.nodes ns)) := by
  simp only [Node.build, asChildren_together, Except.map]

theorem build_col (ns : List Node) :
    Node.build "col" [together ns] = .ok (.column (Layout.nodes ns)) := by
  simp only [Node.build, asChildren_together, Except.map]

theorem build_ol (ns : List Node) :
    Node.build "ol" [together ns] = .ok (.orderedList (Layout.nodes ns)) := by
  simp only [Node.build, asChildren_together, Except.map]

theorem build_ul (ns : List Node) :
    Node.build "ul" [together ns] = .ok (.unorderedList (Layout.nodes ns)) := by
  simp only [Node.build, asChildren_together, Except.map]

theorem build_text {v : Value} (h : v.isSpellable = true) :
    Node.build "text" [v] = .ok (Layout.textNode v) := by
  simp only [Node.build, Value.inWords_of_isSpellable h, Except.map, Layout.textNode]

theorem centered_eq (n : Node) : centered n = .ok (Layout.centered n) := rfl

theorem painted_eq (c : Color) (n : Node) : painted c n = .ok (Layout.painted c n) := rfl

theorem subheading_eq (c : Color) {text : Value} (h : text.isSpellable = true) :
    subheading c text = .ok (Layout.subheading c text) := by
  rw [subheading]
  simp only [Node.build, Value.inWords_of_isSpellable h, Except.map]
  rfl

theorem historyHeading_eq (text : String) :
    historyHeading text = .ok (Layout.historyHeading text) := rfl

/-! ## The parts of a layout -/

theorem contactLinks_eq (c : Contact) : contactLinks c = .ok (Layout.contactLinks c) := by
  have hlink : ∀ l : ContactLink, link l = .ok (Layout.link l) := by
    rintro ⟨label, address⟩
    cases label <;> cases address <;> rfl
  rw [contactLinks, mapM_eq_ok fun l _ => hlink l]
  exact build_row _

theorem header_eq {r : Resume} (h : r.IsSpellable) : header r = .ok (Layout.header r) := by
  have htitle : Node.build "title" [.text r.fullName] = .ok (.title (.text r.fullName)) := rfl
  simp only [header, Resume.nameInWords_eq h, htitle, painted_eq, centered_eq,
    subheading_eq _ h.profession, build_text h.description, contactLinks_eq, bind, Except.bind]
  rw [Layout.header]
  cases r.contact.isEmpty with
  | true =>
    rw [if_pos rfl]
    exact build_col _
  | false =>
    rw [if_neg Bool.false_ne_true, Except.map]
    exact build_col _

theorem levelBar_eq (p : Proficiency) :
    levelBar p = .ok (.percentBar (Layout.levelPercent p) (.text p.displayName)) := by
  cases p <;> rfl

theorem skillItem_eq {s : Skill} (h : s.label.isSpellable = true) :
    skillItem s = .ok (Layout.skillItem s) := by
  rw [skillItem, Layout.skillItem, build_text h]
  cases s.level with
  | none => rfl
  | some p =>
    simp only [levelBar_eq, bind, Except.bind]
    exact build_row _

theorem skills_eq {ss : List Skill} (h : ∀ s ∈ ss, s.label.isSpellable = true) :
    skills ss = .ok (Layout.skills ss) := by
  have hheading : subheading .defaultSubtitle (.text "Skills") =
      .ok (Layout.subheading .defaultSubtitle (.text "Skills")) := rfl
  simp only [skills, mapM_eq_ok fun s hs => skillItem_eq (h s hs), hheading, build_ul, centered_eq,
    bind, Except.bind]
  exact build_col _

/-! ## Sentences -/

def educationPlaces (e : Education) : List Value :=
  [e.school, e.years.start.toValue, e.years.finish.toValue] ++
    (if e.field.truthy then [e.field] else []) ++
    (if e.degree.isPresent then [e.degree.describe] else [])

theorem educationArguments_eq {e : Education} (h : e.IsSpellable) :
    educationArguments e = .ok (educationPlaces e) := by
  rw [educationArguments, educationPlaces, Degree.inWords_eq h.subject]
  cases e.degree.isPresent <;> rfl

section
variable {σ : Type} {scheme : Text.Scheme σ} {IsAt : Nat → σ → Prop} {policy : EscapePolicy}
  {args : List Value} {n : Nat}

/-- A clause that is there only if there is something to put in its place. -/
theorem fills_clause (hcounts : scheme.Counts IsAt) {v : Value} {c : Bool} (opening : String)
    (h : Text.IsBraceless opening.toList) (hv : c = true → args[n]? = some v)
    (hs : v.isSpellable = true) :
    Text.Fills scheme IsAt (Value.inPlace policy) args n
      (if c then opening ++ "\x7b\x7d" else "") (if c then opening ++ v.embedded policy else "")
      (if c then n + 1 else n) := by
  cases c with
  | true => exact .slot hcounts opening h (hv rfl) (Value.inPlace_of_isSpellable hs policy)
  | false => exact .text "" (by decide) n

theorem fills_span (hcounts : scheme.Counts IsAt) {y : Years} (hy : y.IsSpellable)
    (hstart : args[n]? = some y.start.toValue) (hfinish : args[n + 1]? = some y.finish.toValue) :
    Text.Fills scheme IsAt (Value.inPlace policy) args n
      " from <i>\x7b\x7d</i> to <i>\x7b\x7d</i>" (Layout.span y) (n + 2) := by
  have hfills : Text.Fills scheme IsAt (Value.inPlace policy) args n
      (" from <i>" ++ "\x7b\x7d" ++ ("</i> to <i>" ++ "\x7b\x7d") ++ "</i>")
      (" from <i>" ++ y.start.printed ++ ("</i> to <i>" ++ y.finish.printed) ++ "</i>") (n + 2) :=
    ((Text.Fills.slot hcounts _ (by decide) hstart
        (Whole.inPlace_toValue y.nonneg hy.start policy)).append
      (.slot hcounts _ (by decide) hfinish
        (Whole.inPlace_toValue y.finish_nonneg hy.finish policy))).append
      (.text _ (by decide) (n + 2))
  simpa [Layout.span, String.append_assoc] using hfills

theorem fill_educationTemplate (hcounts : scheme.Counts IsAt) (policy : EscapePolicy)
    {e : Education} (h : e.IsSpellable) :
    Text.fill scheme (Value.inPlace policy) (educationPlaces e) (educationTemplate e) =
      .ok (Layout.educationSentence policy e) := by
  have hschool : (educationPlaces e)[0]? = some e.school := rfl
  have hfield : e.field.truthy = true → (educationPlaces e)[3]? = some e.field := by
    intro h
    simp [educationPlaces, h]
  -- the number of the place for the degree depends on whether there is one for the field
  have hdegree : e.degree.isPresent = true →
      (educationPlaces e)[if e.field.truthy then 4 else 3]? = some e.degree.describe := by
    intro h
    cases hf : e.field.truthy <;> simp [educationPlaces, h, hf]
  have hopening : Text.Fills scheme IsAt (Value.inPlace policy) (educationPlaces e) 0
      ("Attended <b>" ++ "\x7b\x7d" ++ "</b>")
      ("Attended <b>" ++ e.school.embedded policy ++ "</b>") 1 :=
    (Text.Fills.slot hcounts _ (by decide) hschool
      (Value.inPlace_of_isSpellable h.school policy)).append (.text _ (by decide) 1)
  have hyears := hopening.append (fills_span hcounts h.years rfl rfl)
  have hclauses := (hyears.append
    (fills_clause hcounts " studying " (by decide) hfield h.field)).append
    (fills_clause hcounts " and achieved " (by decide) hdegree
      (Degree.isSpellable_describe h.subject))
  exact hclauses.fill_eq hcounts

theorem fill_workTemplate (hcounts : scheme.Counts IsAt) (policy : EscapePolicy) {w : Work}
    (h : w.IsSpellable) :
    Text.fill scheme (Value.inPlace policy)
      [w.position, w.company, w.years.start.toValue, w.years.finish.toValue] workTemplate =
        .ok (Layout.workSentence policy w) := by
  have hopening : Text.Fills scheme IsAt (Value.inPlace policy)
      [w.position, w.company, w.years.start.toValue, w.years.finish.toValue] 0
      ("<b>" ++ "\x7b\x7d" ++ ("</b> at " ++ "\x7b\x7d"))
      ("<b>" ++ w.position.embedded policy ++ ("</b> at " ++ w.company.embedded policy)) 2 :=
    (Text.Fills.slot hcounts _ (by decide) rfl
      (Value.inPlace_of_isSpellable h.position policy)).append
      (.slot hcounts _ (by decide) rfl (Value.inPlace_of_isSpellable h.company policy))
  have hyears := hopening.append (fills_span hcounts h.years rfl rfl)
  simpa [workTemplate, Layout.workSentence, String.append_assoc] using hyears.fill_eq hcounts

end

theorem educationItem_eq (policy : EscapePolicy) {e : Education} (h : e.IsSpellable) :
    educationItem policy e = .ok (Layout.educationItem policy e) := by
  rw [educationItem, educationArguments_eq h]
  change (Value.filled policy _ (educationPlaces e) >>= _) = _
  rw [Value.filled_text fun hcounts policy => fill_educationTemplate hcounts policy h]
  cases policy <;> rfl

theorem workItem_eq (policy : EscapePolicy) {w : Work} (h : w.IsSpellable) :
    workItem policy w = .ok (Layout.workItem policy w) := by
  rw [workItem, Value.filled_text fun hcounts policy => fill_workTemplate hcounts policy h]
  cases policy <;> rfl

theorem history_eq (policy : EscapePolicy) {r : Resume} (h : r.IsSpellable) :
    history policy r.education r.work = .ok (Layout.history policy r.education r.work) := by
  simp only [history, mapM_eq_ok fun e he => educationItem_eq policy (h.education e he),
    mapM_eq_ok fun w hw => workItem_eq policy (h.work w hw), historyHeading_eq, build_ol, build_ul,
    bind, Except.bind]
  exact build_col _

/-- What is built step by step is the layout. -/
theorem document_eq (policy : EscapePolicy) {r : Resume} (h : r.IsSpellable) :
    document policy r = .ok (Layout.document policy r) := by
  rw [document, Resume.nameInWords_eq h, header_eq h, skills_eq h.skills, history_eq policy h]
  rfl

end Assembly

namespace Page

/-- The page of a resume: its document is built under policy `p`, and rendered under policy `q`. -/
def ofResume (t : PaletteTheme) (p q : EscapePolicy) (r : Resume) : Except Fault String := do
  let n ← Assembly.document p r
  renderNode t.toTheme q n

theorem ofResume_eq (t : PaletteTheme) (p q : EscapePolicy) {r : Resume} (h : r.IsSpellable) :
    ofResume t p q r = renderNode t.toTheme q (Layout.document p r) := by
  rw [ofResume, Assembly.document_eq p h]
  rfl

end Page

end ResumePress
