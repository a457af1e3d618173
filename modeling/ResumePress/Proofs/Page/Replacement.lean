import ResumePress.Proofs.Page.Parts

/-!
# Replacing a part of a document

A position leads from the top of a document to one of its parts, by the numbers of the children on
the way. Whatever is put at a position, the markup around it stays the same, and the document is
rendered if and only if what was put there is.
-/
namespace ResumePress

open Text (EscapePolicy)
open Page

/-- The node with other children in the place of its own, of which there are as many. -/
def Node.withChildren (n : Node) (vs : List Value) : Node :=
  match n with
  | document _ => document vs
  | container _ => container vs
  | aligned c h v => aligned (vs.headD c) h v
  | row _ => row vs
  | column _ => column vs
  | orderedList _ => orderedList vs
  | unorderedList _ => unorderedList vs
  | rectangle c radius color => rectangle (vs.headD c) radius color
  | card c => card (vs.headD c)
  | italics c => italics (vs.headD c)
  | bold c => bold (vs.headD c)
  | link c url => link (vs.headD c) url
  | foreground c color => foreground (vs.headD c) color
  | background c color => background (vs.headD c) color
  | n => n

namespace Node

theorem contents_withChildren {n : Node} {vs ws : List Value} (h : n.contents = .children vs)
    (hlen : ws.length = vs.length) (hn : vs ≠ []) :
    (n.withChildren ws).contents = .children ws := by
  cases n with
  | fadeIn => cases h; exact absurd rfl hn
  | text | title | sectionTitle | percentBar => cases h
  | document | container | row | column | orderedList | unorderedList => rfl
  | _ =>
    cases h
    obtain ⟨w, rfl⟩ := List.length_eq_one_iff.mp hlen
    rfl

theorem children_withChildren {n : Node} {v w : Value} {vs ws : List Value}
    (h : n.children = vs ++ v :: ws) :
    (n.withChildren (vs ++ w :: ws)).children = vs ++ w :: ws := by
  have hlen : (vs ++ w :: ws).length = (vs ++ v :: ws).length := by simp
  have hc := contents_withChildren (contents_eq_children h) hlen (by simp)
  rw [children, hc]

theorem withChildren_children (n : Node) : n.withChildren n.children = n := by
  cases n <;> rfl

theorem wrapper_withChildren (n : Node) (vs : List Value) (d : Dress) (policy : EscapePolicy) :
    (n.withChildren vs).wrapper d policy = n.wrapper d policy := by
  cases n <;> rfl

theorem begins_withChildren (n : Node) (vs : List Value) (d : Dress) :
    (n.withChildren vs).begins d = n.begins d := by
  cases n <;> rfl

theorem ends_withChildren (n : Node) (vs : List Value) (d : Dress) :
    (n.withChildren vs).ends d = n.ends d := by
  cases n <;> rfl

end Node

/-- A way down a document: the number of a child, of a child of this child, and so on. -/
abbrev Position := List Nat

namespace Value

def at? : Value → Position → Option Value
  | v, [] => some v
  | node n, i :: p => n.children[i]?.bind fun c => c.at? p
  | _, _ :: _ => none

def putAt : Value → Position → Value → Value
  | _, [], x => x
  | node n, i :: p, x => node (n.withChildren (n.children.modify i fun c => c.putAt p x))
  | v, _ :: _, _ => v

/-- A position below a node leads through one of its children, and what is put there leaves the
others alone. -/
theorem exists_child_of_at? {v x : Value} {i : Nat} {p : Position}
    (h : v.at? (i :: p) = some x) : ∃ n c vs ws, v = node n ∧ n.children = vs ++ c :: ws ∧
      vs.length = i ∧ c.at? p = some x ∧
      ∀ y, v.putAt (i :: p) y = node (n.withChildren (vs ++ c.putAt p y :: ws)) := by
  cases v with
  | node n =>
    rw [at?, Option.bind_eq_some_iff] at h
    obtain ⟨c, hc, hx⟩ := h
    obtain ⟨hi, rfl⟩ := List.getElem?_eq_some_iff.mp hc
    have hmodify := fun f => List.modify_eq_take_cons_drop (f := f) hi
    refine ⟨n, _, _, _, rfl, (List.modify_id i _).symm.trans (hmodify id), ?_, hx, fun y => ?_⟩
    · exact List.length_take_of_le (Nat.le_of_lt hi)
    · rw [putAt, hmodify]
      rfl
  | _ => cases h

theorem putAt_of_at? {v x : Value} {p : Position} (h : v.at? p = some x) : v.putAt p x = v := by
  induction p generalizing v with
  | nil => exact (Option.some.inj h).symm
  | cons i p ih =>
    obtain ⟨n, c, vs, ws, rfl, hn, -, hx, hput⟩ := exists_child_of_at? h
    rw [hput, ih hx, ← hn, Node.withChildren_children]

theorem at?_putAt {v x : Value} {p : Position} (h : v.at? p = some x) (y : Value) :
    (v.putAt p y).at? p = some y := by
  induction p generalizing v with
  | nil => rfl
  | cons i p ih =>
    obtain ⟨n, c, vs, ws, rfl, hn, hi, hx, hput⟩ := exists_child_of_at? h
    rw [hput, at?, Node.children_withChildren hn, List.getElem?_append_right (Nat.le_of_eq hi), hi,
      Nat.sub_self]
    exact ih hx

end Value

namespace Page

/-- Of parts on lines of their own, one can be exchanged without the others. -/
theorem exists_stacked_eq (ss ts : List String) :
    ∃ before after, ∀ m, stacked (ss ++ m :: ts) = before ++ m ++ after := by
  induction ss with
  | nil =>
    cases ts with
    | nil => exact ⟨"", "", fun m => by simp⟩
    | cons t ts => exact ⟨"", "\n" ++ stacked (t :: ts), fun m => by
        simp [stacked_cons_cons, String.append_assoc]⟩
  | cons s ss ih =>
    obtain ⟨before, after, h⟩ := ih
    refine ⟨s ++ "\n" ++ before, after, fun m => ?_⟩
    obtain ⟨r, rs, hrest⟩ := List.exists_cons_of_ne_nil (List.append_ne_nil_of_right_ne_nil ss
      (List.cons_ne_nil m ts))
    rw [List.cons_append, hrest, stacked_cons_cons, ← hrest, h]
    simp only [String.append_assoc]

/-- Of the children of a node, one can be exchanged without the others. -/
theorem exists_filled_eq (u : Wrapper) (ss ts : List String) :
    ∃ before after, ∀ m, u.filled (ss ++ m :: ts) = before ++ m ++ after := by
  obtain ⟨before, after, h⟩ := exists_stacked_eq (ss.map (within u.cellOpening u.cellClosing))
    (ts.map (within u.cellOpening u.cellClosing))
  refine ⟨u.opening ++ before ++ u.cellOpening, u.cellClosing ++ after ++ u.closing, fun m => ?_⟩
  rw [Wrapper.filled, wrapped, List.map_append, List.map_cons, h]
  simp only [Wrapper.around, within, String.append_assoc]

variable {t : Theme} {policy : EscapePolicy}

theorem renderAll_append_cons {vs ws : List Value} {ss ts : List String}
    (hvs : Rendered t policy vs ss) (hws : Rendered t policy ws ts) (y : Value) :
    renderAll t policy (vs ++ y :: ws) =
      (renderValue t policy y).map fun m => ss ++ m :: ts := by
  induction hvs with
  | nil =>
    rw [List.nil_append, renderAll, renderAll_eq_ok_iff.mpr hws]
    cases renderValue t policy y <;> rfl
  | cons hv _ ih =>
    rw [List.cons_append, renderAll, hv, ih]
    cases renderValue t policy y <;> rfl

/-- What is put into the document is rendered for itself, between two texts that do not depend on
it. A fault of it is the fault of the document. -/
def Frames (t : Theme) (policy : EscapePolicy) (f : Value → Value) : Prop :=
  ∃ before after : String, ∀ y, renderValue t policy (f y) =
    (renderValue t policy y).map fun m => before ++ m ++ after

theorem frames_id : Frames t policy fun y => y :=
  ⟨"", "", fun y => by cases renderValue t policy y <;> simp [Except.map]⟩

theorem Frames.comp {f g : Value → Value} (hf : Frames t policy f) (hg : Frames t policy g) :
    Frames t policy fun y => f (g y) := by
  obtain ⟨before, after, hf⟩ := hf
  obtain ⟨before', after', hg⟩ := hg
  refine ⟨before ++ before', after' ++ after, fun y => ?_⟩
  rw [hf, hg]
  cases renderValue t policy y <;> simp [Except.map, String.append_assoc]

/-- A child can be exchanged if its siblings are rendered. -/
theorem frames_child {d : Dress} (ht : t.Wears d) {n : Node} {u : Wrapper} {c : Value}
    {vs ws : List Value} {ss ts : List String} (hbegins : n.begins d = .ok ())
    (hends : n.ends d = .ok ()) (hu : n.wrapper d policy = .ok u)
    (hc : n.contents = .children (vs ++ c :: ws)) (hvs : Rendered t policy vs ss)
    (hws : Rendered t policy ws ts) :
    Frames t policy fun y => .node (n.withChildren (vs ++ y :: ws)) := by
  obtain ⟨before, after, h⟩ := exists_filled_eq u ss ts
  refine ⟨before, after, fun y => ?_⟩
  have hcontents : (n.withChildren (vs ++ y :: ws)).contents = .children (vs ++ y :: ws) :=
    Node.contents_withChildren hc (by simp) (by simp)
  rw [renderValue, renderNode_eq ht, Node.begins_withChildren, Node.wrapper_withChildren, hbegins,
    hu]
  change renderContents t policy d _ u = _
  rw [renderContents, hcontents, Node.ends_withChildren, hends]
  change (renderAll t policy (vs ++ y :: ws) >>= fun parts => .ok (u.filled parts)) = _
  rw [renderAll_append_cons hvs hws]
  cases renderValue t policy y with
  | error e => rfl
  | ok m => exact congrArg Except.ok (h m)

/-- A node with children that is rendered has a wrapper, and all is spelled out for it. -/
theorem exists_ends_of_renderNode {d : Dress} (ht : t.Wears d) {n : Node} {vs : List Value}
    {page : String} (hc : n.contents = .children vs) (h : renderNode t policy n = .ok page) :
    ∃ u, n.begins d = .ok () ∧ n.wrapper d policy = .ok u ∧ n.ends d = .ok () := by
  rw [renderNode_eq ht] at h
  obtain ⟨⟨⟩, hbegins, h⟩ := bind_eq_ok.mp h
  obtain ⟨u, hu, h⟩ := bind_eq_ok.mp h
  rw [renderContents, hc] at h
  obtain ⟨ss, -, h⟩ := bind_eq_ok.mp h
  obtain ⟨⟨⟩, hends, -⟩ := bind_eq_ok.mp h
  exact ⟨u, hbegins, hu, hends⟩

theorem frames_putAt {d : Dress} (ht : t.Wears d) {p : Position} {v x : Value} {page : String}
    (hv : renderValue t policy v = .ok page) (hp : v.at? p = some x) :
    Frames t policy fun y => v.putAt p y := by
  induction p generalizing v page with
  | nil => exact frames_id
  | cons i p ih =>
    obtain ⟨n, c, vs, ws, rfl, hn, -, hx, hput⟩ := Value.exists_child_of_at? hp
    rw [renderValue] at hv
    obtain ⟨-, ss, hss⟩ := exists_rendered_children hv
    have hall : ∀ w ∈ vs ++ c :: ws, ∃ s, renderValue t policy w = .ok s :=
      fun w hw => hss.exists_markup (hn ▸ hw)
    simp only [List.forall_mem_append, List.forall_mem_cons] at hall
    obtain ⟨hvs, ⟨s, hs⟩, hws⟩ := hall
    obtain ⟨as, has⟩ := exists_rendered_of_forall hvs
    obtain ⟨bs, hbs⟩ := exists_rendered_of_forall hws
    have hc := Node.contents_eq_children hn
    obtain ⟨u, hbegins, hu, hends⟩ := exists_ends_of_renderNode ht hc hv
    simp only [hput]
    exact (frames_child ht hbegins hends hu hc has hbs).comp (ih hs hx)

/-- A theme whose colors are valid and whose cards stand between two texts. -/
theorem exists_wears {t : Theme} (hcolors : ∀ c, ∃ h, t.hex (.color c) = .ok h)
    (hcard : ∃ opening closing, ∀ s, t.card s = .ok (opening ++ s ++ closing)) :
    ∃ d, t.Wears d := by
  choose hex hhex using hcolors
  obtain ⟨opening, closing, hcard⟩ := hcard
  exact ⟨⟨t.name, t.css, hex, opening, closing⟩, rfl, rfl, hhex, hcard⟩

/-- A document that is rendered keeps its markup around a position whatever is put there, and is
rendered exactly if what is put there is. What stands there now has its own markup in place. -/
theorem markup_putAt {t : Theme} (hcolors : ∀ c, ∃ h, t.hex (.color c) = .ok h)
    (hcard : ∃ opening closing, ∀ s, t.card s = .ok (opening ++ s ++ closing))
    (policy : EscapePolicy)
    {v x : Value} {page : String} (hv : renderValue t policy v = .ok page) {p : Position}
    (hp : v.at? p = some x) :
    ∃ before after : String,
      (∃ m, renderValue t policy x = .ok m ∧ page = before ++ m ++ after) ∧
      ∀ y, (v.putAt p y).at? p = some y ∧ renderValue t policy (v.putAt p y) =
        (renderValue t policy y).map fun m => before ++ m ++ after := by
  obtain ⟨d, ht⟩ := exists_wears hcolors hcard
  obtain ⟨before, after, h⟩ := frames_putAt ht hv hp
  refine ⟨before, after, ?_, fun y => ⟨Value.at?_putAt hp y, h y⟩⟩
  have hx : renderValue t policy (v.putAt p x) = _ := h x
  rw [Value.putAt_of_at? hp, hv] at hx
  cases hm : renderValue t policy x with
  | error e => rw [hm] at hx; cases hx
  | ok m => rw [hm] at hx; exact ⟨m, rfl, Except.ok.inj hx⟩

def sampleCards : Value :=
  .node (.row [.node (.bold (.node (.text (.text "Ada")))),
    .node (.card (.node (.title (.text ""))))])

/-- The text can be exchanged for anything, be it rendered or not. -/
theorem markup_putAt_sampleCards :
    ∃ page before after : String,
      renderValue (PaletteTheme.monochrome .dark).toTheme .verbatim sampleCards = .ok page ∧
      (∃ m, renderValue (PaletteTheme.monochrome .dark).toTheme .verbatim
        (.node (.text (.text "Ada"))) = .ok m ∧ page = before ++ m ++ after) ∧
      ∀ y, (sampleCards.putAt [0, 0] y).at? [0, 0] = some y ∧
        renderValue (PaletteTheme.monochrome .dark).toTheme .verbatim (sampleCards.putAt [0, 0] y) =
          (renderValue (PaletteTheme.monochrome .dark).toTheme .verbatim y).map
            fun m => before ++ m ++ after := by
  have hpage : ∃ page, renderValue (PaletteTheme.monochrome .dark).toTheme .verbatim sampleCards =
      .ok page := ⟨_, rfl⟩
  obtain ⟨page, hpage⟩ := hpage
  obtain ⟨before, after, h⟩ := markup_putAt (fun c => ⟨_, PaletteTheme.hex_color _ c⟩)
    ⟨_, _, fun _ => rfl⟩ .verbatim hpage (p := [0, 0]) rfl
  exact ⟨page, before, after, hpage, h⟩

end Page

end ResumePress
