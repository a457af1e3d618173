import ResumePress.Proofs.Page.Make
import ResumePress.Proofs.Page.Parts

/-!
# Reading a tree back from its markup

Under escaping, the markup of a tree of plain nodes tells the tree: the kinds, the number and the
order of the children, the attributes and every payload. Only colors to which the theme gives one
triple look the same. An opening tells its node, an escaped payload ends where the next tag begins,
and after a child comes either a new line with the next child or the closing of the parent.
-/
namespace ResumePress

open Text (EscapePolicy)

/-- A tree of plain nodes, down to its payloads, which are plain texts. -/
inductive Value.IsPlainTree : Value → Prop
  | leaf {n : Node} {v : Value} (hn : n.IsPlain) (hc : n.contents = .payload v)
    (hv : v.IsPlain) : IsPlainTree (.node n)
  | branch {n : Node} {vs : List Value} (hn : n.IsPlain) (hc : n.contents = .children vs)
    (hvs : ∀ v ∈ vs, v.IsPlainTree) : IsPlainTree (.node n)

theorem Value.IsPlainTree.hasForm {t : PaletteTheme} {v : Value} (h : v.IsPlainTree)
    (hs : v.SpellsIn t) : v.HasForm t := by
  induction h with
  | leaf hn hc => exact .leaf hn.hasForm (Value.spellsIn_node_iff.mp hs).1 hc
  | branch hn hc _ ih =>
    obtain ⟨hnode, hbelow⟩ := Value.spellsIn_node_iff.mp hs
    rw [Node.children, hc] at hbelow
    exact .branch hn.hasForm hnode hc fun v hv => ih v hv (hbelow v hv)

/-- Trees that are equal, up to colors that are equal to the theme. -/
inductive Value.Alike (t : PaletteTheme) : Value → Value → Prop
  | leaf {n m : Node} {v : Value} (h : n.SameMake t m) (hn : n.contents = .payload v)
    (hm : m.contents = .payload v) : Alike t (.node n) (.node m)
  | branch {n m : Node} {vs ws : List Value} (h : n.SameMake t m) (hn : n.contents = .children vs)
    (hm : m.contents = .children ws) (hvs : List.Forall₂ (Alike t) vs ws) :
    Alike t (.node n) (.node m)

/-- Nodes of one make hold contents of one kind. -/
theorem Node.SameMake.payload_of_payload {t : PaletteTheme} {n m : Node} (h : n.SameMake t m)
    {v : Value} (hn : n.contents = .payload v) : ∃ w, m.contents = .payload w := by
  cases h <;> first | exact ⟨_, rfl⟩ | cases hn

namespace Page

/-! ## Where markup ends -/

def closes : List Char → Bool
  | '<' :: '/' :: _ => true
  | '<' :: 'b' :: 'r' :: _ => true
  | _ => false

theorem closes_of_kindAt? {cs : List Char} {k : String} (h : kindAt? cs = some k) :
    closes cs = false := by
  unfold closes
  split
  · cases h
  · cases h
  · rfl

theorem eq_cons_of_closes {cs : List Char} (h : closes cs = true) : ∃ r, cs = '<' :: r := by
  unfold closes at h
  split at h
  · exact ⟨_, rfl⟩
  · exact ⟨_, rfl⟩
  · cases h

/-- A closing and the opening of a cell are told apart by how they begin. -/
structure Wrapper.IsLegible (u : Wrapper) : Prop where
  cell : u.cellOpening = "" ∨ ∀ a, closes (u.cellOpening.toList ++ a) = false
  closing : ∀ a, closes (u.closing.toList ++ a) = true

theorem isLegible_bare {opening closing : String}
    (h : ∀ a, closes (closing.toList ++ a) = true) : (Wrapper.bare opening closing).IsLegible :=
  ⟨.inl rfl, h⟩

theorem isLegible_wrapper {n : Node} (hn : n.IsPlain) {t : PaletteTheme} {policy : EscapePolicy}
    {u : Wrapper} (hu : n.wrapper t.dress policy = .ok u) : u.IsLegible := by
  cases n with
  | document =>
    cases hu
    have hblank : ∀ a, closes (blankLines.toList ++ a) = true := fun _ => rfl
    exact isLegible_bare (apply_append closes hblank)
  | aligned c h v =>
    obtain ⟨⟨a, rfl⟩, b, rfl⟩ := hn
    rw [wrapper_aligned] at hu
    cases hu
    exact isLegible_bare fun _ => rfl
  | card =>
    cases hu
    have hcard : ∀ a, closes (Theme.cardClosing.toList ++ a) = true := fun _ => rfl
    exact isLegible_bare hcard
  | row =>
    cases hu
    exact ⟨.inr fun _ => rfl, fun _ => rfl⟩
  | column =>
    cases hu
    exact ⟨.inr fun _ => rfl, fun _ => rfl⟩
  | orderedList =>
    cases hu
    exact ⟨.inr fun _ => rfl, fun _ => rfl⟩
  | unorderedList =>
    cases hu
    exact ⟨.inr fun _ => rfl, fun _ => rfl⟩
  | fadeIn => exact hn.elim
  | _ =>
    cases hu
    exact isLegible_bare fun _ => rfl

/-! ## The markup of plain trees -/

theorem spellsIn_of_markup {t : PaletteTheme} {policy : EscapePolicy} {n : Node} {s : String}
    (hs : renderValue t.toTheme policy (.node n) = .ok s) : n.SpellsIn t :=
  (Value.hasForm_node_iff.mp (hasForm_of_markup hs)).1.2

theorem rendered_of_markup {t : PaletteTheme} {policy : EscapePolicy} {n : Node} {vs : List Value}
    {s : String} (hc : n.contents = .children vs)
    (hs : renderValue t.toTheme policy (.node n) = .ok s) :
    ∃ ss, Rendered t.toTheme policy vs ss := by
  have hn : n.children = vs := by rw [Node.children, hc]
  exact hn ▸ (exists_rendered_children hs).2

/-- The markup of a plain tree begins with the opening of its root. -/
theorem exists_opening {v : Value} (hv : v.IsPlainTree) {t : PaletteTheme} {s : String}
    (hs : renderValue t.toTheme .escape v = .ok s) : ∃ n u r, v = .node n ∧ n.IsPlain ∧
      n.wrapper t.dress .escape = .ok u ∧ s = u.opening ++ r := by
  cases hv with
  | leaf hn hc =>
    obtain ⟨u, hu⟩ := exists_wrapper hn t.dress .escape
    rw [renderNode_payload (spellsIn_of_markup hs) hu hc] at hs
    cases hs
    exact ⟨_, u, _, rfl, hn, hu, String.append_assoc⟩
  | branch hn hc hvs =>
    obtain ⟨u, hu⟩ := exists_wrapper hn t.dress .escape
    obtain ⟨ss, hss⟩ := rendered_of_markup hc hs
    rw [renderNode_children (spellsIn_of_markup hs) hu hc hss] at hs
    cases hs
    exact ⟨_, u, _, rfl, hn, hu, String.append_assoc⟩

theorem closes_markup {v : Value} (hv : v.IsPlainTree) {t : PaletteTheme} {s : String}
    (hs : renderValue t.toTheme .escape v = .ok s) (a : List Char) :
    closes (s.toList ++ a) = false := by
  obtain ⟨n, u, r, -, hn, hu, rfl⟩ := exists_opening hv hs
  rw [String.toList_append, List.append_assoc]
  exact closes_of_kindAt? (kindAt?_opening hn hu _)

/-! ## Children -/

theorem closes_cell {u : Wrapper} (hu : u.IsLegible) {v : Value} (hv : v.IsPlainTree)
    {t : PaletteTheme} {s : String} (hs : renderValue t.toTheme .escape v = .ok s)
    (a : List Char) : closes (u.cellOpening.toList ++ (s.toList ++ a)) = false := by
  rcases hu.cell with h | h
  · rw [h]
    exact closes_markup hv hs a
  · exact h _

/-- What follows the cell of a child: the next children on a new line, and then `rest`. -/
def following (o c : String) : List String → List Char → List Char
  | [], rest => rest
  | s :: ss, rest => '\n' :: ((wrapped o c (s :: ss)).toList ++ rest)

theorem toList_wrapped_cons (o c s : String) (ss : List String) (rest : List Char) :
    (wrapped o c (s :: ss)).toList ++ rest =
      o.toList ++ (s.toList ++ (c.toList ++ following o c ss rest)) := by
  cases ss with
  | nil =>
    simp only [wrapped, List.map_cons, List.map_nil, stacked_singleton, within,
      String.toList_append, List.append_assoc, following]
  | cons s' ss =>
    have hnewline : "\n".toList = ['\n'] := rfl
    simp only [wrapped, List.map_cons, stacked_cons_cons, within, String.toList_append,
      List.append_assoc, hnewline, List.cons_append, List.nil_append, following]

/-- The tree of a value and where its markup ends can be read off the markup. -/
def Decodes (t : PaletteTheme) (v : Value) : Prop :=
  ∀ w : Value, w.IsPlainTree → ∀ s s' : String, renderValue t.toTheme .escape v = .ok s →
    renderValue t.toTheme .escape w = .ok s' → ∀ a b : List Char,
    s.toList ++ a = s'.toList ++ b → v.Alike t w ∧ a = b

/-- Children are read one after the other up to the closing of their parent. -/
theorem children_decode {t : PaletteTheme} {u : Wrapper} (hu : u.IsLegible) {vs ws : List Value}
    {ss ts : List String} (hvs : ∀ v ∈ vs, v.IsPlainTree) (hdec : ∀ v ∈ vs, Decodes t v)
    (hws : ∀ w ∈ ws, w.IsPlainTree) (hs : Rendered t.toTheme .escape vs ss)
    (ht : Rendered t.toTheme .escape ws ts) {a b : List Char}
    (h : (wrapped u.cellOpening u.cellClosing ss).toList ++ (u.closing.toList ++ a) =
      (wrapped u.cellOpening u.cellClosing ts).toList ++ (u.closing.toList ++ b)) :
    List.Forall₂ (Value.Alike t) vs ws ∧ a = b := by
  have hclose : ∀ (r : List Char) (w : Value), w.IsPlainTree → ∀ s : String,
      renderValue t.toTheme .escape w = .ok s → ∀ c : List Char,
      u.closing.toList ++ r ≠ u.cellOpening.toList ++ (s.toList ++ c) := by
    intro r w hw s hs c he
    have hr := hu.closing r
    rw [he, closes_cell hu hw hs] at hr
    cases hr
  induction hs generalizing ws ts with
  | nil =>
    cases ht with
    | nil => exact ⟨.nil, List.append_cancel_left (List.append_cancel_left h)⟩
    | @cons w s' ws ts hw _ =>
      rw [toList_wrapped_cons] at h
      exact absurd h (hclose a w (hws w (by simp)) s' hw _)
  | @cons v s vs ss hv hs ih =>
    cases ht with
    | nil =>
      rw [toList_wrapped_cons] at h
      exact absurd h.symm (hclose b v (hvs v (by simp)) s hv _)
    | @cons w s' ws ts hw ht =>
      rw [toList_wrapped_cons, toList_wrapped_cons] at h
      obtain ⟨halike, hcell⟩ := hdec v (by simp) w (hws w (by simp)) s s' hv hw _ _
        (List.append_cancel_left h)
      have hrest := List.append_cancel_left hcell
      -- a new line goes on with the next child, a tag closes the parent
      obtain ⟨x, hx⟩ := eq_cons_of_closes (hu.closing a)
      obtain ⟨y, hy⟩ := eq_cons_of_closes (hu.closing b)
      cases hs with
      | nil =>
        cases ht with
        | nil => exact ⟨.cons halike .nil, List.append_cancel_left hrest⟩
        | cons =>
          rw [following, following, hx] at hrest
          exact absurd (List.cons.inj hrest).1 (by decide)
      | cons =>
        cases ht with
        | nil =>
          rw [following, following, hy] at hrest
          exact absurd (List.cons.inj hrest).1 (by decide)
        | cons hw' ht =>
          rw [following, following] at hrest
          obtain ⟨hall, hab⟩ := ih (fun v hv => hvs v (by simp [hv]))
            (fun v hv => hdec v (by simp [hv])) (fun w hw => hws w (by simp [hw]))
            (.cons hw' ht) (List.cons.inj hrest).2
          exact ⟨.cons halike hall, hab⟩

/-! ## Trees -/

/-- Roots of trees with markup that begins alike are of one make. -/
theorem sameMake_of_markup {t : PaletteTheme} {n m : Node} (hv : (Value.node n).IsPlainTree)
    (hw : (Value.node m).IsPlainTree) {s s' : String}
    (hs : renderValue t.toTheme .escape (.node n) = .ok s)
    (hs' : renderValue t.toTheme .escape (.node m) = .ok s') {a b : List Char}
    (h : s.toList ++ a = s'.toList ++ b) : n.SameMake t m := by
  obtain ⟨n, u, r, hn', hn, hu, rfl⟩ := exists_opening hv hs
  obtain ⟨m, u', r', hm', hm, hu', rfl⟩ := exists_opening hw hs'
  cases hn'
  cases hm'
  rw [String.toList_append, String.toList_append, List.append_assoc, List.append_assoc] at h
  exact sameMake_of_opening hn hm hu hu' h

theorem toList_around (u : Wrapper) (content : String) (a : List Char) :
    (u.around content).toList ++ a =
      u.opening.toList ++ (content.toList ++ (u.closing.toList ++ a)) := by
  rw [Wrapper.around, within, String.toList_append, String.toList_append, List.append_assoc,
    List.append_assoc]

/-- A payload is read up to the next tag. -/
theorem payload_decode {u : Wrapper} (hu : u.IsLegible) {x y : String} {a b : List Char}
    (h : (Text.escape x).toList ++ (u.closing.toList ++ a) =
      (Text.escape y).toList ++ (u.closing.toList ++ b)) : x = y ∧ a = b := by
  obtain ⟨r, hr⟩ := eq_cons_of_closes (hu.closing a)
  obtain ⟨r', hr'⟩ := eq_cons_of_closes (hu.closing b)
  rw [hr, hr'] at h
  have hx := Text.notMem_escape (c := '<') rfl x
  have hy := Text.notMem_escape (c := '<') rfl y
  obtain ⟨hxy, hrest⟩ := eq_of_append_cons_eq hx hy h
  rw [← hrest, ← hr] at hr'
  exact ⟨Text.escape_injective (String.toList_inj.mp hxy), (List.append_cancel_left hr').symm⟩

/-- Every plain tree can be read back. The induction is on the one tree; the other one has the same
contents because it has the same make. -/
theorem decodes_of_isPlainTree {v : Value} (hv : v.IsPlainTree) (t : PaletteTheme) :
    Decodes t v := by
  induction hv with
  | @leaf n v hn hc hv =>
    intro w hw s s' hs hs' a b h
    obtain ⟨x, rfl⟩ := hv
    obtain ⟨u, hu⟩ := exists_wrapper hn t.dress .escape
    have hpayload := renderNode_payload (spellsIn_of_markup hs) hu hc
    rw [hpayload] at hs
    cases hs
    cases hw with
    | @leaf m v' hm hc' hv' =>
      obtain ⟨y, rfl⟩ := hv'
      have hmake := sameMake_of_markup (.leaf hn hc ⟨x, rfl⟩) (.leaf hm hc' ⟨y, rfl⟩) hpayload hs' h
      rw [wrapper_eq_of_sameMake hmake] at hu
      rw [renderNode_payload (spellsIn_of_markup hs') hu hc'] at hs'
      cases hs'
      rw [toList_around, toList_around] at h
      obtain ⟨rfl, hab⟩ := payload_decode (isLegible_wrapper hm hu) (List.append_cancel_left h)
      exact ⟨.leaf hmake hc hc', hab⟩
    | @branch m ws hm hc' hws =>
      have hmake := sameMake_of_markup (.leaf hn hc ⟨x, rfl⟩) (.branch hm hc' hws) hpayload hs' h
      obtain ⟨y, hy⟩ := hmake.payload_of_payload hc
      rw [hc'] at hy
      cases hy
  | @branch n vs hn hc hvs ih =>
    intro w hw s s' hs hs' a b h
    obtain ⟨u, hu⟩ := exists_wrapper hn t.dress .escape
    obtain ⟨ss, hss⟩ := rendered_of_markup hc hs
    have hchildren := renderNode_children (spellsIn_of_markup hs) hu hc hss
    rw [hchildren] at hs
    cases hs
    cases hw with
    | @leaf m v' hm hc' hv' =>
      have hmake := sameMake_of_markup (.leaf hm hc' hv') (.branch hn hc hvs) hs' hchildren h.symm
      obtain ⟨y, hy⟩ := hmake.payload_of_payload hc'
      rw [hc] at hy
      cases hy
    | @branch m ws hm hc' hws =>
      have hmake := sameMake_of_markup (.branch hn hc hvs) (.branch hm hc' hws) hchildren hs' h
      rw [wrapper_eq_of_sameMake hmake] at hu
      obtain ⟨ts, hts⟩ := rendered_of_markup hc' hs'
      rw [renderNode_children (spellsIn_of_markup hs') hu hc' hts] at hs'
      cases hs'
      rw [Wrapper.filled, Wrapper.filled, toList_around, toList_around] at h
      obtain ⟨hall, hab⟩ := children_decode (isLegible_wrapper hm hu) hvs ih hws hss hts
        (List.append_cancel_left h)
      exact ⟨.branch hmake hc hc' hall, hab⟩

theorem markup_eq_of_alike {t : PaletteTheme} {v w : Value} (hv : v.HasForm t) (hw : w.HasForm t)
    (h : v.Alike t w) : renderValue t.toTheme .escape v = renderValue t.toTheme .escape w := by
  induction hv generalizing w with
  | leaf hn hs hc =>
    obtain ⟨u, hu⟩ := (exists_wrapper_iff _ t.dress .escape).mpr hn
    cases h with
    | leaf hmake hl hr =>
      cases hc.symm.trans hl
      rw [renderNode_payload hs hu hc, renderNode_payload (Value.hasForm_node_iff.mp hw).1.2
        (wrapper_eq_of_sameMake hmake .escape ▸ hu) hr]
    | branch hmake hl hr => cases hc.symm.trans hl
  | @branch n us hn hs hc hus ih =>
    obtain ⟨u, hu⟩ := (exists_wrapper_iff _ t.dress .escape).mpr hn
    cases h with
    | leaf hmake hl hr => cases hc.symm.trans hl
    | @branch _ m vs ws hmake hl hr hall =>
      cases hc.symm.trans hl
      obtain ⟨⟨-, hspells⟩, hws⟩ := Value.hasForm_node_iff.mp hw
      rw [Node.children, hr] at hws
      obtain ⟨ss, hss⟩ := exists_rendered_of_forall fun v hv => exists_markup_of_hasForm (hus v hv)
        .escape
      have hparts : Rendered t.toTheme .escape ws ss := by
        clear hc hl hr hus
        induction hss generalizing ws with
        | nil =>
          cases hall
          exact .nil
        | @cons v s vs ss hv hvs ihss =>
          cases hall with
          | @cons _ w _ ws hvw hall =>
            rw [List.forall_mem_cons] at ih hws
            refine .cons ?_ (ihss ih.2 hall hws.2)
            rw [← ih.1 hws.1 hvw, hv]
      rw [renderNode_children hs hu hc hss,
        renderNode_children hspells (wrapper_eq_of_sameMake hmake .escape ▸ hu) hr hparts]

/-- Two plain trees have equal markup only if they are equal up to colors that the theme does not
tell apart. -/
theorem markup_eq_iff_alike {t : PaletteTheme} {v w : Value} (hv : v.IsPlainTree)
    (hw : w.IsPlainTree) (hs : v.SpellsIn t) (hs' : w.SpellsIn t) :
    ∃ s s', renderValue t.toTheme .escape v = .ok s ∧ renderValue t.toTheme .escape w = .ok s' ∧
      (s = s' ↔ v.Alike t w) := by
  obtain ⟨s, hmarkup⟩ := exists_markup_of_hasForm (hv.hasForm hs) .escape
  obtain ⟨s', hmarkup'⟩ := exists_markup_of_hasForm (hw.hasForm hs') .escape
  refine ⟨s, s', hmarkup, hmarkup', ?_, ?_⟩
  · rintro rfl
    exact (decodes_of_isPlainTree hv t w hw s s hmarkup hmarkup' [] [] rfl).1
  · intro h
    have he := markup_eq_of_alike (hv.hasForm hs) (hw.hasForm hs') h
    rw [hmarkup, hmarkup'] at he
    exact Except.ok.inj he

def sampleRow (c : Color) : Value :=
  .node (.row [.node (.foreground (.node (.text (.text "</p> & more"))) c),
    .node (.link (.node (.title (.text ""))) (.text "/\x22></a>"))])

theorem isPlainTree_sampleRow (c : Color) : (sampleRow c).IsPlainTree := by
  refine .branch trivial rfl fun v hv => ?_
  simp only [List.mem_cons, List.not_mem_nil, or_false] at hv
  rcases hv with rfl | rfl
  · refine .branch trivial rfl fun w hw => ?_
    rw [List.mem_singleton.mp hw]
    exact .leaf trivial rfl ⟨_, rfl⟩
  · refine .branch ⟨_, rfl⟩ rfl fun w hw => ?_
    rw [List.mem_singleton.mp hw]
    exact .leaf trivial rfl ⟨_, rfl⟩

/-- A theme with one color does not tell two rows apart that differ in their color. -/
theorem markup_eq_iff_alike_sampleRow :
    ∃ s s', renderValue (PaletteTheme.monochrome .dark).toTheme .escape (sampleRow .red) = .ok s ∧
      renderValue (PaletteTheme.monochrome .dark).toTheme .escape (sampleRow .blue) = .ok s' ∧
      (s = s' ↔ (sampleRow .red).Alike (PaletteTheme.monochrome .dark) (sampleRow .blue)) :=
  have hspells : ∀ c, (sampleRow c).SpellsIn (PaletteTheme.monochrome .dark) := fun _ =>
    Value.spellsIn_of_isSpellable (PaletteTheme.isSpellable_monochrome _) rfl
  markup_eq_iff_alike (isPlainTree_sampleRow _) (isPlainTree_sampleRow _) (hspells _) (hspells _)

end Page

end ResumePress
