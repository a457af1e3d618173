import ResumePress.Proofs.Page.Visible
import ResumePress.Proofs.Resume.Assembly

/-!
# A page shows its resume

What a reader of an escaped page sees is the transcript of the resume: every text once, in order and
as it was written, in the sentences and below the headings of the layout.
-/
namespace ResumePress

/-! ## Transcripts -/

def Value.said : Value → String
  | .text s => s
  | _ => ""

def Proficiency.transcript : Proficiency → String
  | none => "None"
  | barely => "Barely"
  | some => "Some"
  | strong => "Strong"
  | expert => "Expert"

def Skill.transcript (s : Skill) : String :=
  match s.level with
  | none => s.label.said
  | some p => s.label.said ++ "\n" ++ p.transcript

def Years.transcript (y : Years) : String :=
  " from " ++ toString y.start.amount ++ " to " ++ toString y.finish.amount

/-- The words for a degree, where there is one. -/
def Degree.transcript? (d : Degree) : Option String :=
  match d.kind with
  | .associate => some ("Associates degree of " ++ d.subject.said)
  | .bachelor => some ("Bachelors degree of " ++ d.subject.said)
  | .master => some ("Masters degree of " ++ d.subject.said)
  | .doctorate => some ("PhD of " ++ d.subject.said)
  | .highSchool => some "high school diploma"
  | .other => some d.subject.said
  | .none => none

def Education.transcript (e : Education) : String :=
  "Attended " ++ e.school.said ++ e.years.transcript ++
    (if e.field.said = "" then "" else " studying " ++ e.field.said) ++
    (match e.degree.transcript? with
      | some words => " and achieved " ++ words
      | none => "")

def Work.transcript (w : Work) : String :=
  w.position.said ++ " at " ++ w.company.said ++ w.years.transcript

/-- The text of a contact field, if there is anything in it. -/
def Contact.label? (field : Option Wording) : Option String :=
  (field.map Wording.content).filter (fun s => !s.isEmpty)

def Contact.labels (c : Contact) : List String :=
  c.fields.filterMap label?

/-- Who the resume is about. Only filled contact fields have lines. -/
def Resume.headLines (r : Resume) : List String :=
  [r.firstName.said ++ " " ++ r.lastName.said, r.profession.said, r.description.said] ++
    if r.contact.labels.isEmpty then [] else ["\n".intercalate r.contact.labels]

/-- Everything that a resume says, line by line. An empty list leaves an empty line. -/
def Resume.transcript (r : Resume) : String :=
  "\n".intercalate (r.headLines ++
    ["Skills", "\n".intercalate (r.skills.map Skill.transcript),
      "Education", "\n".intercalate (r.education.map Education.transcript),
      "Professional Experience", "\n".intercalate (r.work.map Work.transcript)])

/-! ## The words of the layout -/

theorem Value.IsPlain.printed_eq_said {v : Value} (h : v.IsPlain) : v.printed = v.said := by
  obtain ⟨s, rfl⟩ := h
  rfl

theorem Proficiency.displayName_eq_transcript (p : Proficiency) :
    p.displayName = p.transcript := by
  cases p <;> rfl

theorem Resume.fullName_eq_said {r : Resume} (h : r.IsPlain) :
    r.fullName = r.firstName.said ++ " " ++ r.lastName.said := by
  rw [fullName, h.firstName.printed_eq_said, h.lastName.printed_eq_said]

/-- A degree that is there has the words of its transcript. -/
theorem Degree.transcript?_eq {d : Degree} (h : d.subject.IsPlainOrNull) :
    d.transcript? = if d.isPresent then some d.describe.said else none := by
  obtain ⟨kind, subject, stated⟩ := d
  have hwords : ∀ opening : String, kind.needsSubject = true →
      opening ++ " " ++ subject.said = opening ++ " " ++ subject.printed := by
    intro opening hk
    rw [(h.isPlain (stated hk)).printed_eq_said]
  cases kind with
  | associate => exact congrArg some (hwords "Associates degree of" rfl)
  | bachelor => exact congrArg some (hwords "Bachelors degree of" rfl)
  | master => exact congrArg some (hwords "Masters degree of" rfl)
  | doctorate => exact congrArg some (hwords "PhD of" rfl)
  | highSchool | other | none => rfl

/-- A field of study is mentioned exactly if it says something. -/
theorem Value.IsPlainOrNull.truthy_iff_said {v : Value} (h : v.IsPlainOrNull) :
    v.truthy = true ↔ v.said ≠ "" := by
  rcases h with rfl | ⟨s, rfl⟩
  · simp [truthy, said]
  · rw [truthy, said, Bool.not_eq_true', ← Bool.not_eq_true, String.isEmpty_iff]

theorem Contact.content_link? (address : Wording → Wording) (field : Option Wording) :
    (link? address field).map (fun l => l.label.content) = label? field := by
  cases field with
  | none => rfl
  | some w =>
    rw [link?, label?, Option.map_some, Option.filter]
    cases w.content.isEmpty <;> rfl

theorem Contact.map_content_links (c : Contact) :
    c.links.map (fun l => l.label.content) = c.labels := by
  rw [links, List.map_filterMap, labels, fields]
  simp only [List.filterMap_cons, List.filterMap_nil, id, content_link?]

namespace Page

variable {t : PaletteTheme}

/-! ## Sentences -/

theorem shows_embedded {v : Value} (h : v.IsPlain) : Shows (v.embedded .escape) v.said := by
  obtain ⟨s, rfl⟩ := h
  exact shows_escape s

theorem shows_printed {w : Whole} (h : 0 ≤ w.amount) : Shows w.printed w.printed :=
  shows_self fun _ hc => Text.entity_of_isDigit (Whole.isDigit_of_mem_printed h hc)

/-- A text with tags but nothing else to escape shows what is left without the tags. -/
theorem shows_of_untagged {s x : String} (hin : insideAfter false s.toList = false)
    (htext : untagged false s.toList = x.toList) (hbody : avoids "</body>".toList s.toList = true)
    (hx : Text.IsBland x.toList) : Shows s x where
  inside := hin
  text rest := by
    rw [htext]
    have hself := Text.decoded_escape_append x rest
    rwa [Text.escape_eq_self hx] at hself
  body := hbody

theorem shows_span (y : Years) : Shows (Layout.span y) y.transcript := by
  have hstart := shows_printed y.nonneg
  have hfinish := shows_printed y.finish_nonneg
  have hfrom : Shows " from <i>" " from " := shows_of_untagged rfl rfl rfl (by decide)
  have hto : Shows "</i> to <i>" " to " := shows_of_untagged rfl rfl rfl (by decide)
  have hend : Silent false false "</i>" := by decide
  have h := (((hfrom.append hstart).append hto).append hfinish).append hend.shows
  rwa [String.append_empty] at h

theorem shows_fieldClause {v : Value} (h : v.IsPlainOrNull) :
    Shows (Layout.fieldClause .escape v)
      (if v.said = "" then "" else " studying " ++ v.said) := by
  unfold Layout.fieldClause
  by_cases ht : v.truthy = true
  · rw [if_pos ht, if_neg (h.truthy_iff_said.mp ht)]
    exact (shows_self (by decide)).append (shows_embedded (h.isPlain ht))
  · rw [if_neg ht, if_pos (not_not.mp (mt h.truthy_iff_said.mpr ht))]
    exact shows_self (by decide)

theorem shows_degreeClause {d : Degree} (h : d.subject.IsPlainOrNull) :
    Shows (Layout.degreeClause .escape d)
      (match d.transcript? with
        | some words => " and achieved " ++ words
        | none => "") := by
  rw [Degree.transcript?_eq h]
  unfold Layout.degreeClause
  have hnothing : Shows "" "" := shows_self (by decide)
  cases d.isPresent with
  | true => exact (shows_self (by decide)).append (shows_embedded (Degree.describe_isPlain h))
  | false => exact hnothing

theorem shows_educationSentence {e : Education} (h : e.IsPlain) :
    Shows (Layout.educationSentence .escape e) e.transcript := by
  have hattended : Shows "Attended <b>" "Attended " := shows_of_untagged rfl rfl rfl (by decide)
  have hbold : Silent false false "</b>" := by decide
  have hs := ((((hattended.append (shows_embedded h.school)).append hbold.shows).append
    (shows_span e.years)).append (shows_fieldClause h.field)).append (shows_degreeClause h.subject)
  rwa [String.append_empty] at hs

theorem shows_workSentence {w : Work} (h : w.IsPlain) :
    Shows (Layout.workSentence .escape w) w.transcript := by
  have hbold : Silent false false "<b>" := by decide
  have hat : Shows "</b> at " " at " := shows_of_untagged rfl rfl rfl (by decide)
  have hs := (((hbold.shows.append (shows_embedded h.position)).append hat).append
    (shows_embedded h.company)).append (shows_span w.years)
  rwa [String.empty_append] at hs

/-! ## The nodes of a layout -/

theorem nodeShows_child {n : Node} {v : Value} {x : String} (hs : n.SpellsIn t) (hn : n.IsPlain)
    (hdoc : n.isDocument = false) (hc : n.contents = .children [v]) (h : NodeShows t v x) :
    NodeShows t (.node n) x := by
  have hx := nodeShows_children hs hn hdoc hc (.cons h .nil)
  rwa [stacked_singleton] at hx

theorem nodeShows_centered {n : Node} {x : String} (h : NodeShows t (.node n) x) :
    NodeShows t (.node (Layout.centered n)) x :=
  nodeShows_child (.of_eq_nil rfl) ⟨⟨_, rfl⟩, _, rfl⟩ rfl rfl h

theorem nodeShows_painted {n : Node} (c : Color) {x : String} (h : NodeShows t (.node n) x) :
    NodeShows t (.node (Layout.painted c n)) x :=
  nodeShows_child (.of_eq_nil rfl) trivial rfl rfl h

theorem nodeShows_card {n : Node} {x : String} (h : NodeShows t (.node n) x) :
    NodeShows t (.node (.card (.node n))) x :=
  nodeShows_child (.of_eq_nil rfl) trivial rfl rfl h

theorem nodeShows_textNode {v : Value} (h : v.IsPlain) :
    NodeShows t (.node (Layout.textNode v)) v.said := by
  obtain ⟨s, rfl⟩ := h
  exact nodeShows_payload (.of_isText rfl rfl) trivial rfl rfl (shows_escape s)

theorem nodeShows_subheading (c : Color) {v : Value} (h : v.IsPlain) :
    NodeShows t (.node (Layout.subheading c v)) v.said := by
  obtain ⟨s, rfl⟩ := h
  apply nodeShows_centered
  apply nodeShows_painted
  exact nodeShows_child (.of_eq_nil rfl) trivial rfl rfl
    (nodeShows_payload (.of_isText rfl rfl) trivial rfl rfl (shows_escape s))

theorem nodeShows_historyHeading (s : String) :
    NodeShows t (.node (Layout.historyHeading s)) s := by
  apply nodeShows_centered
  apply nodeShows_painted
  exact nodeShows_payload (.of_isText rfl rfl) trivial rfl rfl (shows_escape s)

theorem nodeShows_map {α : Type} {f : α → Node} {g : α → String} {as : List α}
    (h : ∀ a ∈ as, NodeShows t (.node (f a)) (g a)) :
    List.Forall₂ (NodeShows t) (Layout.nodes (as.map f)) (as.map g) := by
  rw [Layout.nodes, List.map_map, List.forall₂_map_left_iff, List.forall₂_map_right_iff,
    List.forall₂_same]
  exact h

theorem nodeShows_link {l : ContactLink} (h : l.IsPlain) :
    NodeShows t (.node (Layout.link l)) l.label.content := by
  obtain ⟨⟨s, hs⟩, a, ha⟩ := h
  rw [Layout.link, hs, ha]
  exact nodeShows_child (.of_isText rfl rfl) ⟨a, rfl⟩ rfl rfl
    (nodeShows_textNode ⟨s, rfl⟩)

theorem nodeShows_contactLinks {c : Contact} (h : c.IsPlain) :
    NodeShows t (.node (Layout.contactLinks c)) (stacked c.labels) := by
  rw [← c.map_content_links]
  exact nodeShows_children (.of_eq_nil rfl) trivial rfl rfl
    (nodeShows_map fun l hl => nodeShows_link (Contact.links_isPlain h l hl))

theorem nodeShows_header {r : Resume} (h : r.IsPlain) :
    NodeShows t (.node (Layout.header r)) (stacked r.headLines) := by
  have htitle : NodeShows t (.node (Layout.centered (Layout.painted .defaultTitle
      (.title (.text r.fullName))))) (r.firstName.said ++ " " ++ r.lastName.said) := by
    rw [← Resume.fullName_eq_said h]
    apply nodeShows_centered
    apply nodeShows_painted
    exact nodeShows_payload (.of_isText rfl rfl) trivial rfl rfl (shows_escape _)
  have hempty : r.contact.isEmpty = r.contact.labels.isEmpty := by
    rw [Contact.isEmpty, ← r.contact.map_content_links, List.isEmpty_map]
  refine nodeShows_children (.of_eq_nil rfl) trivial rfl rfl (.cons htitle (.cons
    (nodeShows_subheading _ h.profession) (.cons (nodeShows_textNode h.description) ?_)))
  rw [hempty]
  cases r.contact.labels.isEmpty with
  | true => exact .nil
  | false => exact .cons (nodeShows_contactLinks h.contact) .nil

theorem nodeShows_skillItem {s : Skill} (h : s.label.IsPlain) :
    NodeShows t (.node (Layout.skillItem s)) s.transcript := by
  rw [Layout.skillItem, Skill.transcript]
  cases s.level with
  | none => exact nodeShows_textNode h
  | some p =>
    have hbar : NodeShows t (.node (.percentBar (Layout.levelPercent p) (.text p.displayName)))
        p.transcript := by
      rw [p.displayName_eq_transcript]
      exact nodeShows_payload (.of_isText rfl rfl) trivial rfl rfl (shows_escape _)
    have hrow := nodeShows_children (n := .row _) (.of_eq_nil rfl) trivial rfl rfl
      (.cons (nodeShows_textNode (t := t) h) (.cons hbar .nil))
    rwa [stacked_cons_cons, stacked_singleton] at hrow

theorem nodeShows_skills {ss : List Skill} (h : ∀ s ∈ ss, s.label.IsPlain) :
    NodeShows t (.node (Layout.skills ss))
      (stacked ["Skills", stacked (ss.map Skill.transcript)]) := by
  refine nodeShows_children (.of_eq_nil rfl) trivial rfl rfl
    (.cons (nodeShows_subheading _ ⟨"Skills", rfl⟩) (.cons ?_ .nil))
  apply nodeShows_centered
  exact nodeShows_children (.of_eq_nil rfl) trivial rfl rfl
    (nodeShows_map fun s hs => nodeShows_skillItem (h s hs))

theorem nodeShows_composed {s x : String} (h : Shows s x) :
    NodeShows t (.node (.text (.composed .escape s))) x :=
  nodeShows_payload (.of_isText rfl rfl) trivial rfl rfl h

theorem nodeShows_history {es : List Education} {ws : List Work} (he : ∀ e ∈ es, e.IsPlain)
    (hw : ∀ w ∈ ws, w.IsPlain) :
    NodeShows t (.node (Layout.history .escape es ws))
      (stacked ["Education", stacked (es.map Education.transcript),
        "Professional Experience", stacked (ws.map Work.transcript)]) := by
  have heducation := nodeShows_map (t := t) (f := Layout.educationItem .escape)
    fun e hmem => nodeShows_composed (shows_educationSentence (he e hmem))
  have hwork := nodeShows_map (t := t) (f := Layout.workItem .escape)
    fun w hmem => nodeShows_composed (shows_workSentence (hw w hmem))
  exact nodeShows_children (.of_eq_nil rfl) trivial rfl rfl (.cons (nodeShows_historyHeading _)
    (.cons (nodeShows_children (.of_eq_nil rfl) trivial rfl rfl heducation)
      (.cons (nodeShows_historyHeading _)
        (.cons (nodeShows_children (.of_eq_nil rfl) trivial rfl rfl hwork) .nil))))

/-! ## The whole page -/

theorem transcript_eq_stacked (r : Resume) :
    r.transcript = stacked [
      stacked [stacked r.headLines, stacked ["Skills", stacked (r.skills.map Skill.transcript)]],
      stacked ["Education", stacked (r.education.map Education.transcript),
        "Professional Experience", stacked (r.work.map Work.transcript)]] := by
  have hsplit : ∀ {xs ys : List String}, xs ≠ [] → ys ≠ [] →
      stacked (xs ++ ys) = stacked [stacked xs, stacked ys] := by
    intro xs ys hx hy
    rw [stacked_cons_cons, stacked_singleton]
    exact String.intercalate_append_of_ne_nil hx hy
  have hhead : r.headLines ≠ [] := List.cons_ne_nil _ _
  have hskills : r.headLines ++ ["Skills", stacked (r.skills.map Skill.transcript)] ≠ [] := by
    simp [hhead]
  rw [← hsplit hhead (by simp), ← hsplit hskills (by simp), List.append_assoc]
  rfl

theorem nodeShows_container {r : Resume} (hr : r.IsPlain) :
    NodeShows t (.node (.container (Layout.nodes [.column (Layout.nodes
      [.row (Layout.nodes [.card (.node (Layout.header r)),
        .card (.node (Layout.skills r.skills))]),
      .card (.node (Layout.history .escape r.education r.work))])]))) r.transcript := by
  have htop := nodeShows_children (n := .row _) (t := t) (.of_eq_nil rfl) trivial rfl rfl
    (.cons (nodeShows_card (nodeShows_header hr))
      (.cons (nodeShows_card (nodeShows_skills hr.skills)) .nil))
  have hbottom := nodeShows_card (t := t) (nodeShows_history hr.education hr.work)
  rw [transcript_eq_stacked]
  exact nodeShows_child (.of_eq_nil rfl) trivial rfl rfl
    (nodeShows_children (.of_eq_nil rfl) trivial rfl rfl (.cons htop (.cons hbottom .nil)))

/-- A reader of the page of a plain resume sees its transcript, unless the style sheet of the theme
gets in the way. -/
theorem visible_eq_transcript {t : PaletteTheme} (ht : t.IsSpellable)
    (hcss : '<' ∉ t.sheet.printed.toList) {r : Resume} (hr : r.IsPlain) (hs : r.IsSpellable) :
    ∃ page, ofResume t .escape .escape r = .ok page ∧ visible page = r.transcript := by
  obtain ⟨s, hmarkup, hshows⟩ := nodeShows_container (t := t) hr
  have hspells : ∀ vs, (Node.document vs).SpellsIn t := fun vs => by
    simp [Node.SpellsIn, Node.spelledIn, ht.name, ht.sheet]
  have hpage : renderValue t.toTheme .escape (.node (Layout.document .escape r)) = .ok _ :=
    renderNode_children (hspells _) rfl rfl (.cons hmarkup .nil)
  rw [renderValue, filled_bare, stacked_singleton, ← frame_eq_around] at hpage
  have hhex : ∀ c, '<' ∉ (t.dress.hex c).toList := by
    intro c hc
    exact absurd (isUnmarked_hex t _ _ hc) (by decide)
  refine ⟨_, (ofResume_eq t .escape .escape hs).trans hpage, ?_⟩
  exact visible_frame hcss (hhex _) (hhex _) hshows

/-- Texts that look like tags, entities and placeholders are seen as they were written. -/
theorem visible_eq_transcript_saying :
    '<' ∉ (PaletteTheme.monochrome .dark).sheet.printed.toList ∧
      ∃ page, ofResume (PaletteTheme.monochrome .dark) .escape .escape
        (.saying "</body>\n&lt;i&gt;'&#39" (by decide)) = .ok page ∧
      visible page = (Resume.saying "</body>\n&lt;i&gt;'&#39" (by decide)).transcript := by
  have hcss : '<' ∉ (PaletteTheme.monochrome .dark).sheet.printed.toList := by decide +kernel
  exact ⟨hcss, visible_eq_transcript (PaletteTheme.isSpellable_monochrome _) hcss
    (Resume.isPlain_saying _ _) (Resume.isSpellable_saying _ _)⟩

end Page

end ResumePress
