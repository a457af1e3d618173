import ResumePress.Proofs.Page.Nesting
import ResumePress.Proofs.Resume.Pages

/-!
# The pages of resumes are well nested

The layout trusts no markup but the sentences that it composes, and these close the tags that they
open. So the escaped page of every plain resume is well nested.
-/
namespace ResumePress

open Text (EscapePolicy WellNested Encloses Leads leads_literal encloses_literal)

namespace Page

/-! ## The nodes of a layout -/

theorem isSound_payload {n : Node} {v : Value} (hn : n.HasForm) (hc : n.contents = .payload v)
    (hv : ∀ s, v = .trusted s → WellNested s) : (Value.node n).IsSound := by
  refine Value.isSound_node_iff.mpr ⟨⟨hn, fun s hs => ?_, ?_⟩, ?_⟩
  · rw [hc] at hs
    exact hv s (Contents.payload.inj hs)
  · rintro c s rfl
    cases hc
  · rw [Node.children, hc]
    exact List.forall_mem_nil _

theorem isSound_plain {n : Node} {v : Value} (hn : n.HasForm) (hc : n.contents = .payload v)
    (hv : v.IsPlain) : (Value.node n).IsSound := by
  obtain ⟨s, rfl⟩ := hv
  exact isSound_payload hn hc nofun

theorem isSound_children {n : Node} {vs : List Value} (hn : n.HasForm)
    (hc : n.contents = .children vs) (ha : ∀ c s, n ≠ .link c (.trusted s))
    (h : ∀ v ∈ vs, v.IsSound) : (Value.node n).IsSound := by
  refine Value.isSound_node_iff.mpr ⟨⟨hn, fun s hs => ?_, ha⟩, ?_⟩
  · rw [hc] at hs
    cases hs
  · rwa [Node.children, hc]

theorem isSound_child {n : Node} {v : Value} (hn : n.HasForm) (hc : n.contents = .children [v])
    (ha : ∀ c s, n ≠ .link c (.trusted s)) (h : v.IsSound) : (Value.node n).IsSound :=
  isSound_children hn hc ha (List.forall_mem_singleton.mpr h)

theorem isSound_centered {n : Node} (h : (Value.node n).IsSound) :
    (Value.node (Layout.centered n)).IsSound :=
  isSound_child (Node.IsPlain.hasForm ⟨⟨_, rfl⟩, _, rfl⟩) rfl nofun h

theorem isSound_painted (c : Color) {n : Node} (h : (Value.node n).IsSound) :
    (Value.node (Layout.painted c n)).IsSound :=
  isSound_child trivial rfl nofun h

theorem isSound_card {n : Node} (h : (Value.node n).IsSound) :
    (Value.node (.card (.node n))).IsSound :=
  isSound_child trivial rfl nofun h

theorem isSound_textNode {v : Value} (h : v.IsPlain) :
    (Value.node (Layout.textNode v)).IsSound := by
  rw [Layout.textNode, h.asText_eq]
  exact isSound_plain trivial rfl h

theorem isSound_subheading (c : Color) {v : Value} (h : v.IsPlain) :
    (Value.node (Layout.subheading c v)).IsSound := by
  rw [Layout.subheading, h.asText_eq]
  apply isSound_centered
  apply isSound_painted
  exact isSound_child trivial rfl (fun _ _ => Node.noConfusion) (isSound_plain trivial rfl h)

theorem isSound_historyHeading (s : String) :
    (Value.node (Layout.historyHeading s)).IsSound := by
  apply isSound_centered
  apply isSound_painted
  exact isSound_plain trivial rfl ⟨s, rfl⟩

theorem forall_mem_nodes {ns : List Node} (h : ∀ n ∈ ns, (Value.node n).IsSound) :
    ∀ v ∈ Layout.nodes ns, v.IsSound :=
  List.forall_mem_map.mpr h

theorem forall_mem_nodes_pair {n m : Node} (hn : (Value.node n).IsSound)
    (hm : (Value.node m).IsSound) : ∀ v ∈ Layout.nodes [n, m], v.IsSound :=
  forall_mem_nodes (List.forall_mem_cons.mpr ⟨hn, List.forall_mem_singleton.mpr hm⟩)

theorem forall_mem_nodes_map {α : Type} {f : α → Node} {as : List α}
    (h : ∀ a ∈ as, (Value.node (f a)).IsSound) : ∀ v ∈ Layout.nodes (as.map f), v.IsSound :=
  forall_mem_nodes (List.forall_mem_map.mpr h)

theorem isSound_link {l : ContactLink} (h : l.IsPlain) :
    (Value.node (Layout.link l)).IsSound := by
  obtain ⟨⟨s, hs⟩, a, ha⟩ := h
  rw [Layout.link, hs, ha]
  exact isSound_child trivial rfl (fun _ _ h => by cases h) (isSound_textNode ⟨s, rfl⟩)

theorem isSound_contactLinks {c : Contact} (h : c.IsPlain) :
    (Value.node (Layout.contactLinks c)).IsSound :=
  isSound_children trivial rfl nofun
    (forall_mem_nodes_map fun l hl => isSound_link (Contact.links_isPlain h l hl))

theorem isSound_header {r : Resume} (h : r.IsPlain) :
    (Value.node (Layout.header r)).IsSound := by
  have htitle : (Value.node (Layout.centered (Layout.painted .defaultTitle
      (.title (.text r.fullName))))).IsSound := by
    apply isSound_centered
    apply isSound_painted
    exact isSound_plain trivial rfl ⟨_, rfl⟩
  refine isSound_children trivial rfl nofun (forall_mem_nodes fun n hn => ?_)
  rcases List.mem_append.mp hn with hn | hn
  · simp only [List.mem_cons, List.not_mem_nil, or_false] at hn
    rcases hn with rfl | rfl | rfl
    · exact htitle
    · exact isSound_subheading _ h.profession
    · exact isSound_textNode h.description
  · split at hn
    · cases hn
    · rw [List.mem_singleton.mp hn]
      exact isSound_contactLinks h.contact

theorem isSound_skillItem {s : Skill} (h : s.label.IsPlain) :
    (Value.node (Layout.skillItem s)).IsSound := by
  rw [Layout.skillItem]
  cases s.level with
  | none => exact isSound_textNode h
  | some p =>
    have hbar : (Value.node (.percentBar (Layout.levelPercent p) (.text p.displayName))).IsSound :=
      isSound_plain trivial rfl ⟨_, rfl⟩
    exact isSound_children trivial rfl (fun _ _ => Node.noConfusion)
      (forall_mem_nodes_pair (isSound_textNode h) hbar)

theorem isSound_skills {ss : List Skill} (h : ∀ s ∈ ss, s.label.IsPlain) :
    (Value.node (Layout.skills ss)).IsSound := by
  have hlist : (Value.node (.unorderedList (Layout.nodes (ss.map Layout.skillItem)))).IsSound :=
    isSound_children trivial rfl nofun (forall_mem_nodes_map fun s hs => isSound_skillItem (h s hs))
  exact isSound_children trivial rfl nofun
    (forall_mem_nodes_pair (isSound_subheading _ ⟨"Skills", rfl⟩) (isSound_centered hlist))

/-! ## Sentences -/

theorem wellNested_plain {v : Value} (h : v.IsPlain) : WellNested (v.embedded .escape) := by
  obtain ⟨s, rfl⟩ := h
  exact wellNested_embedded nofun

theorem wellNested_span (y : Years) : WellNested (Layout.span y) := by
  have hstart := Text.wellNested_of_isUnmarked (Whole.isUnmarked_printed y.nonneg)
  have hfinish := Text.wellNested_of_isUnmarked (Whole.isUnmarked_printed y.finish_nonneg)
  have hfrom : Leads (.within []) (.within [['i']]) " from <i>" := leads_literal (by decide)
  have hto : Leads (.within [['i']]) (.within [['i']]) "</i> to <i>" := leads_literal (by decide)
  have hend : Leads (.within [['i']]) (.within []) "</i>" := leads_literal (by decide)
  exact (((hfrom.append (hstart.inside _)).append hto).append (hfinish.inside _)).append hend

theorem wellNested_fieldClause {v : Value} (h : v.IsPlainOrNull) :
    WellNested (Layout.fieldClause .escape v) := by
  unfold Layout.fieldClause
  split
  next ht =>
    have hstudying : WellNested " studying " := leads_literal (by decide)
    exact hstudying.append (wellNested_plain (h.isPlain ht))
  next => exact Text.wellNested_empty

theorem wellNested_degreeClause {d : Degree} (h : d.subject.IsPlainOrNull) :
    WellNested (Layout.degreeClause .escape d) := by
  unfold Layout.degreeClause
  split
  next =>
    have hachieved : WellNested " and achieved " := leads_literal (by decide)
    exact hachieved.append (wellNested_plain (Degree.describe_isPlain h))
  next => exact Text.wellNested_empty

theorem wellNested_educationSentence {e : Education} (h : e.IsPlain) :
    WellNested (Layout.educationSentence .escape e) := by
  have hbold : Encloses "Attended <b>" "</b>" :=
    encloses_literal [['b']] (by decide) (by decide)
  have hschool := hbold.wellNested (wellNested_plain h.school)
  exact ((hschool.append (wellNested_span e.years)).append (wellNested_fieldClause h.field)).append
    (wellNested_degreeClause h.subject)

theorem wellNested_workSentence {w : Work} (h : w.IsPlain) :
    WellNested (Layout.workSentence .escape w) := by
  have hbold : Encloses "<b>" "</b> at " :=
    encloses_literal [['b']] (by decide) (by decide)
  have hposition := hbold.wellNested (wellNested_plain h.position)
  exact (hposition.append (wellNested_plain h.company)).append (wellNested_span w.years)

/-! ## The whole page -/

theorem isSound_composed {s : String} (h : WellNested s) :
    (Value.node (.text (.composed .escape s))).IsSound := by
  refine isSound_payload trivial rfl fun s' hs => ?_
  cases hs
  exact h

theorem isSound_history {es : List Education} {ws : List Work} (he : ∀ e ∈ es, e.IsPlain)
    (hw : ∀ w ∈ ws, w.IsPlain) : (Value.node (Layout.history .escape es ws)).IsSound := by
  have heducation : (Value.node (.orderedList
      (Layout.nodes (es.map (Layout.educationItem .escape))))).IsSound :=
    isSound_children trivial rfl nofun (forall_mem_nodes_map fun e hmem =>
      isSound_composed (wellNested_educationSentence (he e hmem)))
  have hwork : (Value.node (.unorderedList
      (Layout.nodes (ws.map (Layout.workItem .escape))))).IsSound :=
    isSound_children trivial rfl nofun (forall_mem_nodes_map fun w hmem =>
      isSound_composed (wellNested_workSentence (hw w hmem)))
  refine isSound_children trivial rfl nofun (forall_mem_nodes fun n hn => ?_)
  simp only [List.mem_cons, List.not_mem_nil, or_false] at hn
  rcases hn with rfl | rfl | rfl | rfl
  · exact isSound_historyHeading _
  · exact heducation
  · exact isSound_historyHeading _
  · exact hwork

theorem isSound_document {r : Resume} (h : r.IsPlain) :
    (Value.node (Layout.document .escape r)).IsSound := by
  have htop : (Value.node (.row (Layout.nodes [.card (.node (Layout.header r)),
      .card (.node (Layout.skills r.skills))]))).IsSound :=
    isSound_children trivial rfl nofun (forall_mem_nodes_pair
      (isSound_card (isSound_header h)) (isSound_card (isSound_skills h.skills)))
  have hbottom := isSound_card (isSound_history h.education h.work)
  have hcolumn := isSound_children (n := .column _) trivial rfl nofun
    (forall_mem_nodes_pair htop hbottom)
  exact isSound_child trivial rfl nofun (isSound_child trivial rfl nofun hcolumn)

/-- Under a theme whose style sheet has no angle brackets, the escaped markup of a document is well
nested if all markup that it trusts is, and the page of every plain resume is. -/
theorem wellNested_markup {t : PaletteTheme} (hopen : '<' ∉ t.sheet.printed.toList)
    (hclose : '>' ∉ t.sheet.printed.toList) :
    (∀ v : Value, v.IsSound → v.SpellsIn t →
      ∃ s, renderValue t.toTheme .escape v = .ok s ∧ WellNested s) ∧
    ∀ r : Resume, t.IsSpellable → r.IsPlain → r.IsSpellable →
      ∃ page, ofResume t .escape .escape r = .ok page ∧ WellNested page := by
  refine ⟨fun v h hs => exists_wellNested hopen hclose h hs, fun r ht hr hs => ?_⟩
  have hspells := ((Value.hasForm_iff _).mp (Layout.hasForm_document ht .escape r)).2
  obtain ⟨page, hpage, hnested⟩ := exists_wellNested hopen hclose (isSound_document hr) hspells
  exact ⟨page, (ofResume_eq t .escape .escape hs).trans hpage, hnested⟩

/-- Texts that look like tags, quotes and closings do not get in the way. -/
theorem wellNested_markup_saying :
    '<' ∉ (PaletteTheme.monochrome .dark).sheet.printed.toList ∧
      '>' ∉ (PaletteTheme.monochrome .dark).sheet.printed.toList ∧
      ∃ page, ofResume (PaletteTheme.monochrome .dark) .escape .escape
        (.saying "</p><b>\x22>" (by decide)) = .ok page ∧ WellNested page := by
  have hopen : '<' ∉ (PaletteTheme.monochrome .dark).sheet.printed.toList :=
    Theme.notMem_defaultCss (.inl rfl)
  have hclose : '>' ∉ (PaletteTheme.monochrome .dark).sheet.printed.toList :=
    Theme.notMem_defaultCss (.inr rfl)
  exact ⟨hopen, hclose, (wellNested_markup hopen hclose).2 _
    (PaletteTheme.isSpellable_monochrome _) (Resume.isPlain_saying _ _)
    (Resume.isSpellable_saying _ _)⟩

end Page

end ResumePress
