import ResumePress.Proofs.Page.Make
import ResumePress.Proofs.Page.Parts
import ResumePress.Proofs.Page.Visible
import ResumePress.Proofs.Text.Tags

/-!
# Well nested documents

The opening of every node leaves the elements open that its closing closes, and so do the two ends
of every cell. Between them stand texts without marks, markup that is trusted to be well nested, and
what the children become. So the markup of a whole document is well nested, at whatever depth its
nodes stand. Only the style sheet of the theme could break it.
-/
namespace ResumePress

open Text (EscapePolicy WellNested Encloses Leads Reader leads_literal encloses_literal)
open Page

/-- The node has a form, and the markup that it trusts is well nested. -/
structure Node.IsSound (n : Node) : Prop where
  hasForm : n.HasForm
  payload : ∀ s, n.contents = .payload (.trusted s) → WellNested s
  address : ∀ c s, n ≠ .link c (.trusted s)

def Value.IsSound (v : Value) : Prop :=
  ∀ x ∈ v.parts, ∃ n, x = .node n ∧ n.IsSound

theorem Value.isSound_node_iff {n : Node} :
    (node n).IsSound ↔ n.IsSound ∧ ∀ v ∈ n.children, v.IsSound := by
  unfold IsSound
  rw [forall_parts_node_iff]
  simp

namespace Page

/-! ## Wrappers -/

/-- The closing of a wrapper and of its cells closes what the opening has opened. -/
structure Wrapper.IsNested (u : Wrapper) : Prop where
  ends : Encloses u.opening u.closing
  cells : Encloses u.cellOpening u.cellClosing

theorem wellNested_stacked {ss : List String} (h : ∀ s ∈ ss, WellNested s) :
    WellNested (stacked ss) := by
  induction ss with
  | nil => exact Text.wellNested_empty
  | cons s ss ih =>
    rw [List.forall_mem_cons] at h
    cases ss with
    | nil => simpa using h.1
    | cons r rs =>
      have hline : WellNested "\n" := leads_literal (by decide)
      rw [stacked_cons_cons]
      exact (h.1.append hline).append (ih h.2)

theorem Wrapper.IsNested.filled {u : Wrapper} (hu : u.IsNested) {ss : List String}
    (h : ∀ s ∈ ss, WellNested s) : WellNested (u.filled ss) := by
  refine hu.ends.wellNested (wellNested_stacked fun s hs => ?_)
  obtain ⟨r, hr, rfl⟩ := List.mem_map.mp hs
  exact hu.cells.wellNested (h r hr)

theorem isNested_bare {opening closing : String} (h : Encloses opening closing) :
    (Wrapper.bare opening closing).IsNested :=
  ⟨h, [], rfl, rfl⟩

theorem leads_tag {a b : Reader} {n : List Char} {pending : List (List Char)}
    {front x back : String} (hfront : Leads a ⟨.value n, pending⟩ front)
    (hx : Text.IsUnmarked x.toList) (hback : Leads ⟨.value n, pending⟩ b back) :
    Leads a b (front ++ x ++ back) :=
  (hfront.append (Text.leads_value hx n pending)).append hback

theorem leads_tag_of_two {a b : Reader} {n : List Char} {pending : List (List Char)}
    {front x middle y back : String} (hfront : Leads a ⟨.value n, pending⟩ front)
    (hx : Text.IsUnmarked x.toList)
    (hmiddle : Leads ⟨.value n, pending⟩ ⟨.value n, pending⟩ middle)
    (hy : Text.IsUnmarked y.toList) (hback : Leads ⟨.value n, pending⟩ b back) :
    Leads a b (front ++ x ++ middle ++ y ++ back) :=
  leads_tag (leads_tag hfront hx hmiddle) hy hback

def division : List Char := ['d', 'i', 'v']

/-- A division with an attribute that depends on the node. -/
theorem encloses_division {front x back : String}
    (hfront : Leads (.within []) ⟨.value division, []⟩ front) (hx : Text.IsUnmarked x.toList)
    (hback : Leads ⟨.value division, []⟩ (.within [division]) back) :
    Encloses (front ++ x ++ back) "</div>" :=
  ⟨[division], leads_tag hfront hx hback, leads_literal (by decide)⟩

def headElements : List (List Char) := [['h', 'e', 'a', 'd'], ['h', 't', 'm', 'l']]

def bodyElements : List (List Char) := [['b', 'o', 'd', 'y'], ['h', 't', 'm', 'l']]

set_option maxRecDepth 2000 in
/-- The part of a head that no theme has a say in. -/
theorem leads_references :
    Leads (.within []) (.within headElements) (preamble ++ sheetReference ++ scripts) := by
  have hopen : Leads (.within []) (.within headElements) "<!DOCTYPE html5><html><head>" :=
    leads_literal (by decide)
  have htype : WellNested
      "<meta content=\"text/html;charset=utf-8\" http-equiv=\"Content-Type\">" := by
    apply leads_literal
    decide
  have hencoding : WellNested "<meta content=\"utf-8\" http-equiv=\"encoding\">" :=
    leads_literal (by decide)
  have hsheet : WellNested sheetReference := leads_literal (by decide)
  have hscripts : WellNested scripts := by
    refine WellNested.append (WellNested.append ?_ ?_) ?_
    all_goals
      apply leads_literal
      decide
  have hpreamble := (hopen.append (htype.inside headElements)).append
    (hencoding.inside headElements)
  exact (hpreamble.append (hsheet.inside _)).append (hscripts.inside _)

/-- The style of a page is nested if the style sheet of the theme has no angle brackets. -/
theorem wellNested_style {css foreground background : String} (hopen : '<' ∉ css.toList)
    (hclose : '>' ∉ css.toList) (hf : Text.IsUnmarked foreground.toList)
    (hb : Text.IsUnmarked background.toList) : WellNested (style css foreground background) := by
  have hcss := (Text.wellNested_of_notMem hopen hclose).inside [['s', 't', 'y', 'l', 'e']]
  have hf' := (Text.wellNested_of_isUnmarked hf).inside [['s', 't', 'y', 'l', 'e']]
  have hb' := (Text.wellNested_of_isUnmarked hb).inside [['s', 't', 'y', 'l', 'e']]
  have hstart : Leads (.within []) (.within [['s', 't', 'y', 'l', 'e']]) "<style>" :=
    leads_literal (by decide)
  have hrule : WellNested "\nbody, div \x7b color: " := leads_literal (by decide)
  have hcolor : WellNested "; background-color: " := leads_literal (by decide)
  have hfinish : Leads (.within [['s', 't', 'y', 'l', 'e']]) (.within []) "; \x7d</style>" :=
    leads_literal (by decide)
  exact (((((hstart.append hcss).append (hrule.inside _)).append hf').append
    (hcolor.inside _)).append hb').append hfinish

theorem encloses_frame {css foreground background : String} (hopen : '<' ∉ css.toList)
    (hclose : '>' ∉ css.toList) (hf : Text.IsUnmarked foreground.toList)
    (hb : Text.IsUnmarked background.toList) :
    Encloses (frameOpening css foreground background) frameClosing := by
  have hstyle := (wellNested_style hopen hclose hf hb).inside headElements
  have hbody : Leads (.within headElements) (.within bodyElements) "</head><body>" :=
    leads_literal (by decide)
  have hblank : WellNested blankLines := leads_literal (by decide)
  have hfinish : Leads (.within bodyElements) (.within []) "</body></html>" :=
    leads_literal (by decide)
  exact ⟨bodyElements, ((leads_references.append hstyle).append hbody).append (hblank.inside _),
    (hblank.inside _).append hfinish⟩

/-- What is not trusted is escaped. -/
theorem isUnmarked_embedded {v : Value} (h : ∀ s, v ≠ .trusted s) :
    Text.IsUnmarked (v.embedded .escape).toList := by
  cases v with
  | trusted s => exact absurd rfl (h s)
  | _ => exact Text.isUnmarked_escape _

theorem wellNested_embedded {v : Value} (h : ∀ s, v = .trusted s → WellNested s) :
    WellNested (v.embedded .escape) := by
  by_cases htrusted : ∃ s, v = .trusted s
  · obtain ⟨s, rfl⟩ := htrusted
    exact h s rfl
  · exact Text.wellNested_of_isUnmarked (isUnmarked_embedded fun s hs => htrusted ⟨s, hs⟩)

theorem isNested_wrapper {n : Node} (hn : n.IsSound) {t : PaletteTheme}
    (hopen : '<' ∉ t.sheet.printed.toList) (hclose : '>' ∉ t.sheet.printed.toList)
    {u : Wrapper} (hu : n.wrapper t.dress .escape = .ok u) : u.IsNested := by
  have hrow : Encloses rowOpening "</div>" := encloses_literal [division] (by decide) (by decide)
  have hcolumn : Encloses columnOpening "</div>" :=
    encloses_literal [division] (by decide) (by decide)
  have hitem : Encloses "<li>" "</li>" := encloses_literal [['l', 'i']] (by decide) (by decide)
  have hhex := isUnmarked_hex t
  -- whatever a node brings into its tags stands between quotes and has no marks
  cases n with
  | document cs =>
    cases hu
    exact isNested_bare (encloses_frame hopen hclose (hhex _) (hhex _))
  | fadeIn => exact hn.hasForm.elim
  | aligned c x y =>
    obtain ⟨⟨rule, hx⟩, rule', hy⟩ := hn.hasForm
    obtain ⟨a, -, rfl⟩ := horizontalRule_eq_ok_iff.mp hx
    obtain ⟨b, -, rfl⟩ := verticalRule_eq_ok_iff.mp hy
    rw [Node.wrapper, hx, hy] at hu
    cases hu
    exact isNested_bare (encloses_division (leads_literal (by decide)) (isUnmarked_rules a b)
      (leads_literal (by decide)))
  | row =>
    cases hu
    exact ⟨hrow, hcolumn⟩
  | column =>
    cases hu
    exact ⟨hcolumn, hrow⟩
  | orderedList =>
    cases hu
    exact ⟨encloses_literal [['o', 'l']] (by decide) (by decide), hitem⟩
  | unorderedList =>
    cases hu
    exact ⟨encloses_literal [['u', 'l']] (by decide) (by decide), hitem⟩
  | percentBar p v =>
    cases hu
    have hpercent := Whole.isUnmarked_printed p.nonneg
    have hfront : Leads (.within []) ⟨.value division, [division]⟩
        "<div class=\"progress\"><div class=\"progress-bar\" role=\"progressbar\" style=\"width:" :=
      leads_literal (by decide)
    have hmiddle : Leads ⟨.value division, [division]⟩ ⟨.value division, [division]⟩
        "%\"  aria-valuenow=\"" := leads_literal (by decide)
    have hback : Leads ⟨.value division, [division]⟩ (.within [division, division])
        "\" aria-valuemin=\"0\" aria-valuemax=\"100\">" := leads_literal (by decide)
    exact isNested_bare ⟨[division, division],
      leads_tag_of_two hfront hpercent hmiddle hpercent hback, leads_literal (by decide)⟩
  | rectangle c r k =>
    cases hu
    have hradius := Whole.isUnmarked_printed r.nonneg
    have hfront : Leads (.within []) ⟨.value division, []⟩
        "<div style=\"height:100%; border-radius: " := leads_literal (by decide)
    have hmiddle : Leads ⟨.value division, []⟩ ⟨.value division, []⟩
        "%; background-color:" := leads_literal (by decide)
    have hback : Leads ⟨.value division, []⟩ (.within [division]) "\">" :=
      leads_literal (by decide)
    exact isNested_bare ⟨[division], leads_tag_of_two hfront hradius hmiddle (hhex k) hback,
      leads_literal (by decide)⟩
  | link c url =>
    cases hu
    have haddress := isUnmarked_embedded fun s hs => hn.address c s (hs ▸ rfl)
    have hfront : Leads (.within []) ⟨.value ['a'], []⟩ "<a href=\"" := leads_literal (by decide)
    have hback : Leads ⟨.value ['a'], []⟩ (.within [['a']]) "\">" := leads_literal (by decide)
    exact isNested_bare ⟨[['a']], leads_tag hfront haddress hback, leads_literal (by decide)⟩
  | foreground c k =>
    cases hu
    exact isNested_bare (encloses_division (leads_literal (by decide)) (hhex k)
      (leads_literal (by decide)))
  | background c k =>
    cases hu
    exact isNested_bare (encloses_division (leads_literal (by decide)) (hhex k)
      (leads_literal (by decide)))
  | container =>
    cases hu
    exact isNested_bare (encloses_literal [division] (by decide) (by decide))
  | card =>
    cases hu
    have hcard : Encloses Theme.cardOpening Theme.cardClosing :=
      encloses_literal [division, division] (by decide) (by decide)
    exact isNested_bare hcard
  | text =>
    cases hu
    exact isNested_bare (encloses_literal [['p']] (by decide) (by decide))
  | title =>
    cases hu
    exact isNested_bare (encloses_literal [['h', '1']] (by decide) (by decide))
  | sectionTitle =>
    cases hu
    exact isNested_bare (encloses_literal [['h', '4']] (by decide) (by decide))
  | italics =>
    cases hu
    exact isNested_bare (encloses_literal [['i']] (by decide) (by decide))
  | bold =>
    cases hu
    exact isNested_bare (encloses_literal [['b']] (by decide) (by decide))

/-! ## Documents -/

variable {t : PaletteTheme}

theorem exists_wellNested (hopen : '<' ∉ t.sheet.printed.toList)
    (hclose : '>' ∉ t.sheet.printed.toList) {v : Value} (h : v.IsSound) (hs : v.SpellsIn t) :
    ∃ s, renderValue t.toTheme .escape v = .ok s ∧ WellNested s := by
  induction v using Value.parts.induct with
  | case1 n ih =>
    obtain ⟨hn, hbelow⟩ := Value.isSound_node_iff.mp h
    obtain ⟨hspells, hspellsBelow⟩ := Value.spellsIn_node_iff.mp hs
    obtain ⟨u, hu⟩ := (exists_wrapper_iff n t.dress .escape).mpr hn.hasForm
    have hnested := isNested_wrapper hn hopen hclose hu
    cases hc : n.contents with
    | payload p =>
      have hp := wellNested_embedded fun s hs => hn.payload s (hs ▸ hc)
      exact ⟨_, renderNode_payload hspells hu hc, hnested.ends.wellNested hp⟩
    | children vs =>
      rw [Node.children, hc] at ih hbelow hspellsBelow
      obtain ⟨ss, hss, hall⟩ := exists_rendered_forall fun v hv =>
        ih v hv (hbelow v hv) (hspellsBelow v hv)
      exact ⟨_, renderNode_children hspells hu hc hss, hnested.filled hall⟩
  | case2 v hv =>
    obtain ⟨n, hn, -⟩ := h v v.self_mem_parts
    exact (hv n hn).elim

end Page

end ResumePress
