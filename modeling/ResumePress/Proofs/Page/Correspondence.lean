import ResumePress.Proofs.Page.Wrapper
import ResumePress.Proofs.Resume.Assembly
import ResumePress.Proofs.Text.Entities

/-!
# Two renderings side by side

Two documents of one layout are rendered to pages that differ only where their texts differ.
Whatever relation holds between the texts of two resumes, as they are embedded in the two pages,
holds between the pages, provided that it is kept when related texts are put together.
-/
namespace ResumePress

open Text (EscapePolicy)

theorem Value.isText_asText (v : Value) : v.asText.isText = true := by
  unfold asText
  split
  · assumption
  · rfl

/-- A relation that holds between equal texts and is kept when related texts are put together. -/
structure Text.Additive (R : String → String → Prop) : Prop where
  refl : ∀ s, R s s
  append : ∀ {a b c d}, R a b → R c d → R (a ++ c) (b ++ d)

namespace Page

theorem stacked_related {R : String → String → Prop} (hR : Text.Additive R) {ss ts : List String}
    (h : List.Forall₂ R ss ts) : R (stacked ss) (stacked ts) := by
  induction h with
  | nil => exact hR.refl _
  | @cons s t ss ts hst hs ih =>
    cases hs with
    | nil => simpa using hst
    | cons =>
      rw [stacked_cons_cons, stacked_cons_cons]
      exact hR.append (hR.append hst (hR.refl _)) ih

theorem within_related {R : String → String → Prop} (hR : Text.Additive R)
    {opening opening' content content' : String} (ho : R opening opening')
    (hc : R content content') (closing : String) :
    R (within opening closing content) (within opening' closing content') :=
  hR.append (hR.append ho hc) (hR.refl _)

theorem wrapped_related {R : String → String → Prop} (hR : Text.Additive R)
    (opening closing : String) {ss ts : List String} (h : List.Forall₂ R ss ts) :
    R (wrapped opening closing ss) (wrapped opening closing ts) := by
  apply stacked_related hR
  rw [List.forall₂_map_left_iff, List.forall₂_map_right_iff]
  exact h.imp fun _ _ hst => within_related hR (hR.refl _) hst _

theorem barOpening_related {R : String → String → Prop} (hR : Text.Additive R) {a b : String}
    (h : R a b) : R (barOpening a) (barOpening b) := by
  unfold barOpening
  refine hR.append (hR.append (hR.append (hR.append ?_ h) ?_) h) ?_
  all_goals exact hR.refl _

/-- Both values are rendered, one under policy `p` and the other under `q`, to related markup. -/
def Corresponds (R : String → String → Prop) (t : PaletteTheme) (p q : EscapePolicy)
    (v w : Value) : Prop :=
  ∃ s s', renderValue t.toTheme p v = .ok s ∧ renderValue t.toTheme q w = .ok s' ∧ R s s'

variable {R : String → String → Prop} (hR : Text.Additive R) {t : PaletteTheme}
  {p q : EscapePolicy} {n m : Node}

theorem exists_parts_of_corresponds {vs ws : List Value}
    (h : List.Forall₂ (Corresponds R t p q) vs ws) :
    ∃ ss ss', Rendered t.toTheme p vs ss ∧ Rendered t.toTheme q ws ss' ∧
      List.Forall₂ R ss ss' := by
  have hleft : List.Forall₂ (fun v w => ∃ s, renderValue t.toTheme p v = .ok s ∧
      ∃ s', renderValue t.toTheme q w = .ok s' ∧ R s s') vs ws :=
    h.imp fun _ _ ⟨s, s', hs, hs', hR⟩ => ⟨s, hs, s', hs', hR⟩
  obtain ⟨ss, hss, hright⟩ := exists_rendered hleft
  obtain ⟨ss', hss', hRs⟩ := exists_rendered hright.flip
  exact ⟨ss, ss', hss, hss', hRs.flip⟩

include hR

/-- Payloads may differ as the relation allows, and so may openings, which hold attributes. -/
theorem corresponds_payload {u u' : Wrapper} {v w : Value} (hsn : n.SpellsIn t)
    (hsm : m.SpellsIn t) (hn : n.wrapper t.dress p = .ok u)
    (hm : m.wrapper t.dress q = .ok u') (hv : n.contents = .payload v)
    (hw : m.contents = .payload w) (ho : R u.opening u'.opening) (hc : u.closing = u'.closing)
    (h : R (v.embedded p) (w.embedded q)) : Corresponds R t p q (.node n) (.node m) := by
  refine ⟨_, _, renderNode_payload hsn hn hv, renderNode_payload hsm hm hw, ?_⟩
  rw [Wrapper.around, Wrapper.around, ← hc]
  exact within_related hR ho h _

/-- Children may differ as the relation allows, and so may openings, which hold attributes. -/
theorem corresponds_children {opening opening' cellOpening cellClosing closing : String}
    {vs ws : List Value} (hsn : n.SpellsIn t) (hsm : m.SpellsIn t)
    (hn : n.wrapper t.dress p = .ok ⟨opening, cellOpening, cellClosing, closing⟩)
    (hm : m.wrapper t.dress q = .ok ⟨opening', cellOpening, cellClosing, closing⟩)
    (hv : n.contents = .children vs) (hw : m.contents = .children ws) (ho : R opening opening')
    (h : List.Forall₂ (Corresponds R t p q) vs ws) : Corresponds R t p q (.node n) (.node m) := by
  obtain ⟨ss, ss', hss, hss', hRs⟩ := exists_parts_of_corresponds h
  refine ⟨_, _, renderNode_children hsn hn hv hss, renderNode_children hsm hm hw hss', ?_⟩
  exact within_related hR ho (wrapped_related hR _ _ hRs) _

end Page

namespace Layout

open Page

variable {R : String → String → Prop} {t : PaletteTheme} {p q : EscapePolicy} {n m : Node}

/-! ## The kinds of node that a layout uses -/

/-- A text of the layout itself holds nothing to escape. -/
theorem embedded_text_eq {s : String} (h : Text.IsBland s.toList) (policy : EscapePolicy) :
    (Value.text s).embedded policy = s := by
  cases policy with
  | verbatim => rfl
  | escape => exact Text.escape_eq_self h

theorem isText_composed (policy : EscapePolicy) (s : String) :
    (Value.composed policy s).isText = true := by
  cases policy <;> rfl

theorem embedded_composed (policy : EscapePolicy) (s : String) :
    (Value.composed policy s).embedded policy = s := by
  cases policy <;> rfl

variable (hR : Text.Additive R)
include hR

theorem corresponds_centered (h : Corresponds R t p q (.node n) (.node m)) :
    Corresponds R t p q (.node (centered n)) (.node (centered m)) :=
  corresponds_children hR (.of_eq_nil rfl) (.of_eq_nil rfl) (wrapper_aligned _ _ _ _ _)
    (wrapper_aligned _ _ _ _ _) rfl rfl
    (hR.refl _) (.cons h .nil)

theorem corresponds_painted (c : Color) (h : Corresponds R t p q (.node n) (.node m)) :
    Corresponds R t p q (.node (painted c n)) (.node (painted c m)) :=
  corresponds_children hR (.of_eq_nil rfl) (.of_eq_nil rfl) rfl rfl rfl rfl (hR.refl _)
    (.cons h .nil)

theorem corresponds_card (h : Corresponds R t p q (.node n) (.node m)) :
    Corresponds R t p q (.node (.card (.node n))) (.node (.card (.node m))) :=
  corresponds_children hR (.of_eq_nil rfl) (.of_eq_nil rfl) rfl rfl rfl rfl (hR.refl _)
    (.cons h .nil)

theorem corresponds_text {v w : Value} (hv : v.isText = true) (hw : w.isText = true)
    (h : R (v.embedded p) (w.embedded q)) :
    Corresponds R t p q (.node (.text v)) (.node (.text w)) :=
  corresponds_payload hR (.of_isText rfl hv) (.of_isText rfl hw) rfl rfl rfl rfl
    (hR.refl _) rfl h

theorem corresponds_sectionTitle {v w : Value} (hv : v.isText = true) (hw : w.isText = true)
    (h : R (v.embedded p) (w.embedded q)) :
    Corresponds R t p q (.node (.sectionTitle v)) (.node (.sectionTitle w)) :=
  corresponds_payload hR (.of_isText rfl hv) (.of_isText rfl hw) rfl rfl rfl rfl
    (hR.refl _) rfl h

theorem corresponds_subheading (c : Color) {v w : Value}
    (h : R (v.asText.embedded p) (w.asText.embedded q)) :
    Corresponds R t p q (.node (subheading c v)) (.node (subheading c w)) := by
  apply corresponds_centered hR
  apply corresponds_painted hR
  exact corresponds_children hR (.of_eq_nil rfl) (.of_eq_nil rfl) rfl rfl rfl rfl (hR.refl _)
    (.cons (corresponds_sectionTitle hR v.isText_asText w.isText_asText h) .nil)

theorem corresponds_historyHeading {s : String} (hs : Text.IsBland s.toList) :
    Corresponds R t p q (.node (historyHeading s)) (.node (historyHeading s)) := by
  apply corresponds_centered hR
  apply corresponds_painted hR
  apply corresponds_sectionTitle hR rfl rfl
  rw [embedded_text_eq hs, embedded_text_eq hs]
  exact hR.refl s

end Layout

/-! ## Whole resumes -/

/-- The bars of two levels agree in what is written on them and in how far they are filled. -/
structure Proficiency.Matches (R : String → String → Prop) (p q : EscapePolicy)
    (a b : Proficiency) : Prop where
  percent : R (Layout.levelPercent a).whole.printed (Layout.levelPercent b).whole.printed
  name : R ((Value.text a.displayName).embedded p) ((Value.text b.displayName).embedded q)

structure Skill.Matches (R : String → String → Prop) (p q : EscapePolicy) (s s' : Skill) :
    Prop where
  label : R (s.label.asText.embedded p) (s'.label.asText.embedded q)
  level : Option.Rel (Proficiency.Matches R p q) s.level s'.level

structure ContactLink.Matches (R : String → String → Prop) (p q : EscapePolicy)
    (l l' : ContactLink) : Prop where
  label : R (l.label.toValue.embedded p) (l'.label.toValue.embedded q)
  address : R (l.address.toValue.embedded p) (l'.address.toValue.embedded q)

theorem Contact.links_matches {R : String → String → Prop} {p q : EscapePolicy} {c c' : Contact}
    (hemail : Option.Rel (ContactLink.Matches R p q) (link? emailAddress c.email)
      (link? emailAddress c'.email))
    (hphone : Option.Rel (ContactLink.Matches R p q) (link? phoneAddress c.phone)
      (link? phoneAddress c'.phone))
    (hwebsite : Option.Rel (ContactLink.Matches R p q) (link? websiteAddress c.website)
      (link? websiteAddress c'.website))
    (hgithub : Option.Rel (ContactLink.Matches R p q) (link? githubAddress c.github)
      (link? githubAddress c'.github))
    (hlinkedin : Option.Rel (ContactLink.Matches R p q) (link? linkedinAddress c.linkedin)
      (link? linkedinAddress c'.linkedin)) :
    List.Forall₂ (ContactLink.Matches R p q) c.links c'.links :=
  List.rel_filterMap (fun _ _ h => h)
    (.cons hemail (.cons hphone (.cons hwebsite (.cons hgithub (.cons hlinkedin .nil)))))

/-- The texts of two resumes, as the one is embedded under policy `p` and the other under `q`,
are related one by one. -/
structure Resume.Matches (R : String → String → Prop) (p q : EscapePolicy) (r r' : Resume) :
    Prop where
  fullName : R ((Value.text r.fullName).embedded p) ((Value.text r'.fullName).embedded q)
  profession : R (r.profession.asText.embedded p) (r'.profession.asText.embedded q)
  description : R (r.description.asText.embedded p) (r'.description.asText.embedded q)
  links : List.Forall₂ (ContactLink.Matches R p q) r.contact.links r'.contact.links
  skills : List.Forall₂ (Skill.Matches R p q) r.skills r'.skills
  education : List.Forall₂ (fun e e' => R (Layout.educationSentence p e)
    (Layout.educationSentence q e')) r.education r'.education
  work : List.Forall₂ (fun w w' => R (Layout.workSentence p w) (Layout.workSentence q w'))
    r.work r'.work

namespace Layout

open Page

variable {R : String → String → Prop} (hR : Text.Additive R) (t : PaletteTheme)
  {p q : EscapePolicy}

theorem isText_toValue (w : Wording) : w.toValue.isText = true := by
  cases w <;> rfl

theorem asText_toValue (w : Wording) : w.toValue.asText = w.toValue := by
  cases w <;> rfl

theorem corresponds_nodes_map {α β : Type} {f : α → Node} {g : β → Node} {S : α → β → Prop}
    {as : List α} {bs : List β} (h : List.Forall₂ S as bs)
    (hf : ∀ a b, S a b → Corresponds R t p q (.node (f a)) (.node (g b))) :
    List.Forall₂ (Corresponds R t p q) (nodes (as.map f)) (nodes (bs.map g)) := by
  induction h with
  | nil => exact .nil
  | cons hab _ ih => exact .cons (hf _ _ hab) ih

include hR

theorem corresponds_link {l l' : ContactLink} (h : l.Matches R p q l') :
    Corresponds R t p q (.node (link l)) (.node (link l')) := by
  rw [link, link, textNode, textNode, asText_toValue, asText_toValue, asText_toValue,
    asText_toValue]
  have hlabel := corresponds_text (t := t) hR (isText_toValue _) (isText_toValue _) h.label
  exact corresponds_children hR (.of_isText rfl (isText_toValue _))
    (.of_isText rfl (isText_toValue _)) rfl rfl rfl rfl
    (hR.append (hR.append (hR.refl _) h.address) (hR.refl _)) (.cons hlabel .nil)

theorem corresponds_header {r r' : Resume} (h : r.Matches R p q r') :
    Corresponds R t p q (.node (header r)) (.node (header r')) := by
  have htitle : Corresponds R t p q (.node (centered (painted .defaultTitle
      (.title (.text r.fullName))))) (.node (centered (painted .defaultTitle
      (.title (.text r'.fullName))))) := by
    apply corresponds_centered hR
    apply corresponds_painted hR
    exact corresponds_payload hR (.of_isText rfl rfl) (.of_isText rfl rfl) rfl rfl
      rfl rfl (hR.refl _) rfl h.fullName
  have hprofession := corresponds_subheading (t := t) hR .defaultSubtitle h.profession
  have hdescription := corresponds_text (t := t) hR r.description.isText_asText
    r'.description.isText_asText h.description
  -- whether there are links is the same on both sides, because the links are related one by one
  have hempty : r.contact.isEmpty = r'.contact.isEmpty := by
    have hlinks := h.links
    rw [Contact.isEmpty, Contact.isEmpty]
    generalize r.contact.links = ls at hlinks ⊢
    generalize r'.contact.links = ls' at hlinks ⊢
    cases hlinks <;> rfl
  rw [header, header, ← hempty]
  refine corresponds_children hR (.of_eq_nil rfl) (.of_eq_nil rfl) rfl rfl rfl rfl (hR.refl _)
    (.cons htitle (.cons hprofession (.cons hdescription ?_)))
  cases r.contact.isEmpty with
  | true => exact .nil
  | false =>
    refine .cons ?_ .nil
    exact corresponds_children hR (.of_eq_nil rfl) (.of_eq_nil rfl) rfl rfl rfl rfl (hR.refl _)
      (corresponds_nodes_map t h.links fun _ _ => corresponds_link hR t)

theorem corresponds_skillItem {s s' : Skill} (h : s.Matches R p q s') :
    Corresponds R t p q (.node (skillItem s)) (.node (skillItem s')) := by
  have hlabel := corresponds_text (t := t) hR s.label.isText_asText s'.label.isText_asText h.label
  have hlevel := h.level
  rw [skillItem, skillItem]
  generalize s.level = a at hlevel ⊢
  generalize s'.level = b at hlevel ⊢
  cases hlevel with
  | none => exact hlabel
  | some hab =>
    refine corresponds_children hR (.of_eq_nil rfl) (.of_eq_nil rfl) rfl rfl rfl rfl (hR.refl _)
      (.cons hlabel (.cons ?_ .nil))
    exact corresponds_payload hR (.of_isText rfl rfl) (.of_isText rfl rfl) rfl rfl
      rfl rfl (barOpening_related hR hab.percent) rfl hab.name

theorem corresponds_skills {ss ss' : List Skill} (h : List.Forall₂ (Skill.Matches R p q) ss ss') :
    Corresponds R t p q (.node (skills ss)) (.node (skills ss')) := by
  refine corresponds_children hR (.of_eq_nil rfl) (.of_eq_nil rfl) rfl rfl rfl rfl (hR.refl _)
    (.cons ?_ (.cons ?_ .nil))
  · apply corresponds_subheading hR
    change R ((Value.text "Skills").embedded p) ((Value.text "Skills").embedded q)
    rw [embedded_text_eq (by decide), embedded_text_eq (by decide)]
    exact hR.refl _
  · apply corresponds_centered hR
    exact corresponds_children hR (.of_eq_nil rfl) (.of_eq_nil rfl) rfl rfl rfl rfl (hR.refl _)
      (corresponds_nodes_map t h fun _ _ => corresponds_skillItem hR t)

theorem span_related {y y' : Years} (hstart : R y.start.printed y'.start.printed)
    (hfinish : R y.finish.printed y'.finish.printed) : R (span y) (span y') := by
  unfold span
  refine hR.append (hR.append (hR.append (hR.append ?_ hstart) ?_) hfinish) ?_
  all_goals exact hR.refl _

theorem educationSentence_related {e e' : Education}
    (hschool : R (e.school.embedded p) (e'.school.embedded q))
    (hstart : R e.years.start.printed e'.years.start.printed)
    (hfinish : R e.years.finish.printed e'.years.finish.printed)
    (hfield : R (fieldClause p e.field) (fieldClause q e'.field))
    (hdegree : R (degreeClause p e.degree) (degreeClause q e'.degree)) :
    R (educationSentence p e) (educationSentence q e') := by
  unfold educationSentence
  refine hR.append (hR.append (hR.append (hR.append (hR.append ?_ hschool) ?_) ?_) hfield) hdegree
  · exact hR.refl _
  · exact hR.refl _
  · exact span_related hR hstart hfinish

theorem workSentence_related {w w' : Work}
    (hposition : R (w.position.embedded p) (w'.position.embedded q))
    (hcompany : R (w.company.embedded p) (w'.company.embedded q))
    (hstart : R w.years.start.printed w'.years.start.printed)
    (hfinish : R w.years.finish.printed w'.years.finish.printed) :
    R (workSentence p w) (workSentence q w') := by
  unfold workSentence
  refine hR.append (hR.append (hR.append (hR.append ?_ hposition) ?_) hcompany) ?_
  · exact hR.refl _
  · exact hR.refl _
  · exact span_related hR hstart hfinish

theorem corresponds_history {r r' : Resume} (h : r.Matches R p q r') :
    Corresponds R t p q (.node (history p r.education r.work))
      (.node (history q r'.education r'.work)) := by
  have heducation := corresponds_nodes_map (f := educationItem p) (g := educationItem q)
    (R := R) (p := p) (q := q) t h.education fun e e' hs => by
      apply corresponds_text hR (isText_composed _ _) (isText_composed _ _)
      rwa [embedded_composed, embedded_composed]
  have hwork := corresponds_nodes_map (f := workItem p) (g := workItem q)
    (R := R) (p := p) (q := q) t h.work fun e e' hs => by
      apply corresponds_text hR (isText_composed _ _) (isText_composed _ _)
      rwa [embedded_composed, embedded_composed]
  refine corresponds_children hR (.of_eq_nil rfl) (.of_eq_nil rfl) rfl rfl rfl rfl (hR.refl _)
    (.cons (corresponds_historyHeading hR (by decide)) (.cons ?_
      (.cons (corresponds_historyHeading hR (by decide)) (.cons ?_ .nil))))
  · exact corresponds_children hR (.of_eq_nil rfl) (.of_eq_nil rfl) rfl rfl rfl rfl (hR.refl _)
      heducation
  · exact corresponds_children hR (.of_eq_nil rfl) (.of_eq_nil rfl) rfl rfl rfl rfl (hR.refl _)
      hwork

/-- Related texts give related pages. -/
theorem corresponds_document (ht : t.IsSpellable) {r r' : Resume} (h : r.Matches R p q r') :
    Corresponds R t p q (.node (document p r)) (.node (document q r')) := by
  have htop := corresponds_children (n := .row _) (m := .row _) hR (.of_eq_nil rfl) (.of_eq_nil rfl)
    rfl rfl rfl rfl (hR.refl _)
    (.cons (corresponds_card hR (corresponds_header hR t h))
      (.cons (corresponds_card hR (corresponds_skills hR t h.skills)) .nil))
  have hbottom := corresponds_card hR (corresponds_history hR t h)
  have hcolumn := corresponds_children (n := .column _) (m := .column _) hR (.of_eq_nil rfl)
    (.of_eq_nil rfl) rfl rfl rfl rfl
    (hR.refl _) (.cons htop (.cons hbottom .nil))
  have hcontainer := corresponds_children (n := .container _) (m := .container _) hR
    (.of_eq_nil rfl) (.of_eq_nil rfl) rfl rfl rfl rfl
    (hR.refl _) (.cons hcolumn .nil)
  have hpage : ∀ vs, (Node.document vs).SpellsIn t := fun vs => by
    simp [Node.SpellsIn, Node.spelledIn, ht.name, ht.sheet]
  exact corresponds_children hR (hpage _) (hpage _) rfl rfl rfl rfl (hR.refl _)
    (.cons hcontainer .nil)

end Layout

namespace Page

/-- Two resumes with related texts have related pages, each under its own policy. -/
theorem exists_related_pages {R : String → String → Prop} (hR : Text.Additive R)
    {t : PaletteTheme} (ht : t.IsSpellable) {p q : EscapePolicy} {r r' : Resume}
    (hr : r.IsSpellable) (hr' : r'.IsSpellable) (h : r.Matches R p q r') :
    ∃ page page', ofResume t p p r = .ok page ∧ ofResume t q q r' = .ok page' ∧ R page page' := by
  rw [ofResume_eq t p p hr, ofResume_eq t q q hr']
  exact Layout.corresponds_document hR t ht h

end Page

end ResumePress
