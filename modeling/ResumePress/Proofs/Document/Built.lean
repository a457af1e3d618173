import ResumePress.Document.Build
import ResumePress.Proofs.Page.Refusal

/-!
# What is built can be rendered, up to its placements

Builders make children of texts and nodes and refuse everything else, and they refuse colors,
percentages and radii that are none. So a document that builders have made holds nothing but nodes
that have a rendering. They keep every placement that they are given, though, so a document that was
built without a fault can still be refused for a placement, and for nothing else.
-/
namespace ResumePress

open Text (EscapePolicy)
open Page

/-! ## Builders -/

/-- All parts are of kinds that there is a rendering for. -/
def Value.AllSupported (v : Value) : Prop :=
  ∀ x ∈ v.parts, x.isSupported = true

/-- The values that calls of builders lead to: results of calls; nodes that were made in another way
and have no unsupported part, such as bars; texts; and all else that is no node, if the values in it
are such values again. -/
inductive Value.IsBuilt : Value → Prop
  | call {builder : String} {args : List Value} {n : Node} (hargs : ∀ a ∈ args, a.IsBuilt)
    (hn : Node.build builder args = .ok n) : IsBuilt (.node n)
  | made {n : Node} (hn : (Value.node n).AllSupported) : IsBuilt (.node n)
  -- the elements of a text are texts without end, so the last case would never be reached
  | text {v : Value} (hv : v.isText = true) : IsBuilt v
  | other {v : Value} (hv : ∀ n, v ≠ .node n)
    (hitems : ∀ items, v.elements? = some items → ∀ x ∈ items, x.IsBuilt) : IsBuilt v

/-- The value is a child that a builder makes of one of its arguments. -/
def Value.IsChildOf (c : Value) (args : List Value) : Prop :=
  ∃ a ∈ args, a.asChild = .ok c ∨ ∃ cs, a.asChildren = .ok cs ∧ c ∈ cs

namespace Node

/-- There is a rendering for the node, and its children come from the arguments. -/
structure IsMadeOf (n : Node) (args : List Value) : Prop where
  supported : (Value.node n).isSupported = true
  children : ∀ c ∈ n.children, c.IsChildOf args

variable {n : Node} {args : List Value}

theorem isMadeOf_several {make : List Value → Node} {v : Value}
    (hmake : ∀ cs, (Value.node (make cs)).isSupported = true ∧ (make cs).children = cs)
    (h : v.asChildren.map make = .ok n) : n.IsMadeOf [v] := by
  obtain ⟨cs, hcs, rfl⟩ := map_eq_ok.mp h
  refine ⟨(hmake cs).1, fun c hc => ⟨v, by simp, .inr ⟨cs, hcs, ?_⟩⟩⟩
  rwa [(hmake cs).2] at hc

theorem isMadeOf_single {make : Value → Except Fault Node} {a : Value}
    (hmake : ∀ c m, make c = .ok m → (Value.node m).isSupported = true ∧ m.children = [c])
    (h : a.asChild >>= make = .ok n) : n.IsMadeOf (a :: args) := by
  obtain ⟨c, hc, hm⟩ := bind_eq_ok.mp h
  obtain ⟨hsupported, hchildren⟩ := hmake c n hm
  refine ⟨hsupported, fun d hd => ⟨a, by simp, .inl ?_⟩⟩
  rw [hchildren, List.mem_singleton] at hd
  rwa [hd]

theorem isMadeOf_single_map {make : Value → Node} {a : Value}
    (hmake : ∀ c, (Value.node (make c)).isSupported = true ∧ (make c).children = [c])
    (h : a.asChild.map make = .ok n) : n.IsMadeOf (a :: args) := by
  obtain ⟨c, hc, hm⟩ := map_eq_ok.mp h
  have hbind : (a.asChild >>= fun c => .ok (make c)) = .ok n :=
    bind_eq_ok.mpr ⟨c, hc, congrArg _ hm⟩
  refine isMadeOf_single (fun c m hm => ?_) hbind
  cases hm
  exact hmake c

theorem isMadeOf_payload (hn : (Value.node n).isSupported = true) (hc : n.children = []) :
    n.IsMadeOf args :=
  ⟨hn, by simp [hc]⟩

theorem isMadeOf_of_build {builder : String} (h : build builder args = .ok n) :
    n.IsMadeOf args := by
  unfold build at h
  split at h
  -- several children, one child, a text, or one child and a color to be checked
  case h_1 | h_2 | h_3 | h_4 | h_5 | h_6 =>
    exact isMadeOf_several (fun cs => ⟨rfl, rfl⟩) h
  case h_7 | h_8 | h_9 | h_14 | h_15 | h_16 =>
    exact isMadeOf_single_map (fun c => ⟨rfl, rfl⟩) h
  case h_10 | h_11 | h_12 =>
    obtain ⟨text, -, rfl⟩ := map_eq_ok.mp h
    exact isMadeOf_payload rfl rfl
  case h_13 =>
    refine isMadeOf_single (fun c m hm => ?_) h
    obtain ⟨r, -, hm⟩ := bind_eq_ok.mp hm
    obtain ⟨k, -, rfl⟩ := map_eq_ok.mp hm
    exact ⟨rfl, rfl⟩
  case h_17 | h_18 | h_19 =>
    refine isMadeOf_single (fun c m hm => ?_) h
    obtain ⟨k, -, rfl⟩ := map_eq_ok.mp hm
    exact ⟨rfl, rfl⟩
  case h_20 => cases h

end Node

/-! ## What has been built -/

namespace Value

theorem asChild_of_not_node {v c : Value} (hv : ∀ n, v ≠ node n) (h : v.asChild = .ok c) :
    c = node (.text v) := by
  unfold asChild at h
  split at h
  next => exact absurd rfl (hv _)
  next =>
    split at h
    · cases h
      rfl
    · cases h

theorem asChild_of_isText {v : Value} (hv : v.isText = true) :
    v.asChild = .ok (node (.text v)) := by
  unfold asChild
  split
  next => cases hv
  next => rw [if_pos hv]

theorem isText_of_mem_elements {v x : Value} (hv : v.isText = true) {items : List Value}
    (h : v.elements? = some items) (hx : x ∈ items) : x.isText = true := by
  have hletters : v.elements? =
      v.content?.map fun s => s.toList.map fun c => text (String.singleton c) := by
    cases v with
    | list | tuple | mapping => cases hv
    | _ => rfl
  rw [hletters] at h
  obtain ⟨s, -, rfl⟩ := Option.map_eq_some_iff.mp h
  obtain ⟨c, -, rfl⟩ := List.mem_map.mp hx
  rfl

theorem allSupported_payload {n : Node} (hn : (node n).isSupported = true)
    (hc : n.children = []) : (node n).AllSupported := by
  refine forall_parts_node_iff.mpr ⟨hn, fun v hv => ?_⟩
  rw [hc] at hv
  cases hv

/-- A supported node whose children come from arguments that have only supported ones to give. -/
theorem allSupported_of_isMadeOf {n : Node} {args : List Value} (hn : n.IsMadeOf args)
    (h : ∀ c : Value, c.IsChildOf args → c.AllSupported) : (node n).AllSupported :=
  forall_parts_node_iff.mpr ⟨hn.supported, fun c hc => h c (hn.children c hc)⟩

theorem exists_asChild_of_asChildren {v : Value} {cs : List Value} (h : v.asChildren = .ok cs)
    {c : Value} (hc : c ∈ cs) :
    ∃ items, v.elements? = some items ∧ ∃ x ∈ items, x.asChild = .ok c := by
  obtain ⟨items, hitems, hcs⟩ := bind_eq_ok.mp h
  have helements : v.elements? = some items := by
    unfold several at hitems
    split at hitems
    next he =>
      cases hitems
      exact he
    next => cases hitems
  exact ⟨items, helements, exists_of_mem_mapM hcs hc⟩

/-- The children that a builder makes of a built value have no unsupported part. -/
theorem IsBuilt.allSupported {v : Value} (h : v.IsBuilt) :
    (∀ c, v.asChild = .ok c → c.AllSupported) ∧
      ∀ cs, v.asChildren = .ok cs → ∀ c ∈ cs, c.AllSupported := by
  have node_itself : ∀ {n : Node}, (node n).AllSupported →
      (∀ c, (node n).asChild = .ok c → c.AllSupported) ∧
        ∀ cs, (node n).asChildren = .ok cs → ∀ c ∈ cs, c.AllSupported := by
    intro n hn
    refine ⟨fun c hc => ?_, nofun⟩
    cases hc
    exact hn
  -- on the nesting of calls; a call only sees what its arguments give as children
  induction h with
  | call hargs hn ih =>
    refine node_itself (allSupported_of_isMadeOf (Node.isMadeOf_of_build hn) ?_)
    rintro c ⟨a, ha, hc | ⟨cs, hcs, hc⟩⟩
    · exact (ih a ha).1 c hc
    · exact (ih a ha).2 cs hcs c hc
  | made hn => exact node_itself hn
  | text hv =>
    refine ⟨fun c hc => ?_, fun cs hcs c hc => ?_⟩
    · rw [asChild_of_isText hv] at hc
      cases hc
      exact allSupported_payload rfl rfl
    · obtain ⟨items, helements, x, hx, hxc⟩ := exists_asChild_of_asChildren hcs hc
      rw [asChild_of_isText (isText_of_mem_elements hv helements hx)] at hxc
      cases hxc
      exact allSupported_payload rfl rfl
  | other hv hitems ih =>
    refine ⟨fun c hc => ?_, fun cs hcs c hc => ?_⟩
    · rw [asChild_of_not_node hv hc]
      exact allSupported_payload rfl rfl
    · obtain ⟨items, helements, x, hx, hxc⟩ := exists_asChild_of_asChildren hcs hc
      exact (ih items helements x hx).1 c hxc

theorem IsBuilt.allSupported_node {n : Node} (h : (node n).IsBuilt) : (node n).AllSupported :=
  h.allSupported.1 _ rfl

/-- All placements are given by members of their vocabularies, or by the names of members. -/
def IsPlaced (v : Value) : Prop :=
  ∀ c x y, node (.aligned c x y) ∈ v.parts →
    (∃ h : HorizontalAlignment, x.content? = some h.token) ∧
      ∃ h : VerticalAlignment, y.content? = some h.token

/-- Documents without unsupported parts have a form if they are placed. -/
theorem AllSupported.hasForm_iff {t : PaletteTheme} {v : Value} (h : v.AllSupported)
    (hs : v.SpellsIn t) : v.HasForm t ↔ v.IsPlaced := by
  rw [Value.hasForm_iff, and_iff_left hs]
  constructor
  · intro hform c x y hmem
    obtain ⟨n, hn, hnode⟩ := hform _ hmem
    cases hn
    simp only [Node.HasForm, horizontalRule_eq_ok_iff, verticalRule_eq_ok_iff] at hnode
    obtain ⟨⟨_, a, ha, -⟩, _, b, hb, -⟩ := hnode
    exact ⟨⟨a, ha⟩, b, hb⟩
  · intro hplaced x hx
    have hsupported := h x hx
    cases x with
    | node n =>
      refine ⟨n, rfl, ?_⟩
      cases n with
      | fadeIn => cases hsupported
      | aligned c x y =>
        obtain ⟨⟨a, ha⟩, b, hb⟩ := hplaced c x y hx
        exact ⟨⟨_, horizontalRule_eq_ok_iff.mpr ⟨a, ha, rfl⟩⟩, _,
          verticalRule_eq_ok_iff.mpr ⟨b, hb, rfl⟩⟩
      | _ => trivial
    | _ => cases hsupported

end Value

namespace Page

def IsPlacementFault (f : Fault) : Prop :=
  f = .misuse .noAlignment ∨ f = .misuse .collectionAsAlignment

theorem isPlacementFault_of_placementRule {rule? : String → Option String} {v : Value} {f : Fault}
    (h : placementRule rule? v = .error f) : IsPlacementFault f := by
  unfold placementRule at h
  split at h
  next => cases h
  next =>
    cases h
    cases v.isConstant
    · exact .inr rfl
    · exact .inl rfl

/-- A supported node is refused for its own sake only if it is placed wrongly. -/
theorem isPlacementFault_of_wrapper {n : Node} (hn : (Value.node n).isSupported = true) {d : Dress}
    {policy : EscapePolicy} {f : Fault} (h : n.wrapper d policy = .error f) :
    IsPlacementFault f := by
  cases n with
  | fadeIn => cases hn
  | aligned c x y =>
    rcases bind_eq_error.mp h with hx | ⟨_, -, h⟩
    · exact isPlacementFault_of_placementRule hx
    rcases bind_eq_error.mp h with hy | ⟨_, -, h⟩
    · exact isPlacementFault_of_placementRule hy
    cases h
  | _ => cases h

/-- Several values are refused for one of them. -/
theorem exists_error_of_renderAll {t : Theme} {policy : EscapePolicy} {vs : List Value} {f : Fault}
    (h : renderAll t policy vs = .error f) : ∃ v ∈ vs, renderValue t policy v = .error f := by
  induction vs with
  | nil => cases h
  | cons v vs ih =>
    rw [renderAll] at h
    rcases bind_eq_error.mp h with hv | ⟨s, -, h⟩
    · exact ⟨v, by simp, hv⟩
    rcases bind_eq_error.mp h with hvs | ⟨ss, -, h⟩
    · obtain ⟨w, hw, herror⟩ := ih hvs
      exact ⟨w, by simp [hw], herror⟩
    cases h

/-- Documents without unsupported parts are refused for nothing but a placement. -/
theorem isPlacementFault_of_allSupported {t : PaletteTheme} {policy : EscapePolicy} {v : Value}
    (hv : v.AllSupported) (hs : v.SpellsIn t) {f : Fault}
    (h : renderValue t.toTheme policy v = .error f) : IsPlacementFault f := by
  induction v using Value.parts.induct with
  | case1 n ih =>
    obtain ⟨hn, hbelow⟩ := Value.forall_parts_node_iff.mp hv
    obtain ⟨hspells, hspellsBelow⟩ := Value.spellsIn_node_iff.mp hs
    rw [renderValue, renderNode_eq t.wears_dress, hspells.begins_eq] at h
    change (n.wrapper t.dress policy >>= renderContents t.toTheme policy t.dress n) = _ at h
    rcases bind_eq_error.mp h with hu | ⟨u, -, h⟩
    · exact isPlacementFault_of_wrapper hn hu
    rw [renderContents, hspells.ends_eq] at h
    cases hc : n.contents with
    | payload p =>
      rw [hc] at h
      dsimp only at h
      rw [Value.shown_of_isSpellable (hspells.payload hc)] at h
      cases h
    | children vs =>
      rw [hc] at h
      rw [Node.children, hc] at ih hbelow hspellsBelow
      rcases bind_eq_error.mp h with hvs | ⟨ss, -, h⟩
      · obtain ⟨w, hw, herror⟩ := exists_error_of_renderAll hvs
        exact ih w hw (hbelow w hw) (hspellsBelow w hw) herror
      · cases h
  | case2 v hnode =>
    have hsupported := hv v v.self_mem_parts
    cases v with
    | node n => exact (hnode n rfl).elim
    | _ => cases hsupported

/-- What builders have made, and can be spelled out, is rendered under every theme and policy if its
placements are members of their vocabularies or names of members. It is refused for nothing but a
placement. -/
theorem exists_markup_iff_isPlaced {n : Node} (h : (Value.node n).IsBuilt) {t : PaletteTheme}
    (hs : (Value.node n).SpellsIn t) (policy : EscapePolicy) :
    ((∃ s, renderValue t.toTheme policy (.node n) = .ok s) ↔ (Value.node n).IsPlaced) ∧
      ∀ f, renderValue t.toTheme policy (.node n) = .error f → IsPlacementFault f :=
  ⟨(exists_markup_iff _ t policy).trans (h.allSupported_node.hasForm_iff hs),
    fun _ hf => isPlacementFault_of_allSupported h.allSupported_node hs hf⟩

def leftSide : Node :=
  .aligned (.node (.text (.text "Ada"))) (.text "left") (.vertical .inherit)

theorem isBuilt_leftSide : (Value.node (.document [.node leftSide])).IsBuilt := by
  have hside : Node.build "aligned" [.text "Ada", .text "left"] = .ok leftSide := rfl
  have hpage : Node.build "html" [.list [.node leftSide]] = .ok (.document [.node leftSide]) := rfl
  have hbuilt : (Value.node leftSide).IsBuilt := by
    refine .call (fun v hv => .text ?_) hside
    simp only [List.mem_cons, List.not_mem_nil, or_false] at hv
    rcases hv with rfl | rfl
    · rfl
    · rfl
  have hlist : (Value.list [.node leftSide]).IsBuilt := by
    refine .other nofun fun items hitems => ?_
    cases hitems
    exact List.forall_mem_singleton.mpr hbuilt
  exact .call (List.forall_mem_singleton.mpr hlist) hpage

theorem isPlaced_leftSide : (Value.node (.document [.node leftSide])).IsPlaced := by
  intro c x y hmem
  simp only [leftSide, Value.parts_node, Node.children, Node.contents, List.flatMap_cons,
    List.flatMap_nil, List.append_nil, List.mem_cons, Value.node.injEq, reduceCtorEq,
    Node.aligned.injEq, List.not_mem_nil, or_self, or_false, false_or] at hmem
  obtain ⟨-, rfl, rfl⟩ := hmem
  exact ⟨⟨.left, rfl⟩, .inherit, rfl⟩

theorem exists_markup_iff_isPlaced_leftSide :
    (Value.node (.document [.node leftSide])).IsBuilt ∧
      (Value.node (.document [.node leftSide])).IsPlaced ∧
      ∃ s, renderValue (PaletteTheme.monochrome .dark).toTheme .escape
        (.node (.document [.node leftSide])) = .ok s :=
  ⟨isBuilt_leftSide, isPlaced_leftSide,
    (exists_markup_iff_isPlaced isBuilt_leftSide
      (Value.spellsIn_of_isSpellable (PaletteTheme.isSpellable_monochrome _) rfl)
      .escape).1.mpr isPlaced_leftSide⟩

def midway : Node :=
  .aligned (.node (.text (.text "x"))) (.text "middle") (.vertical .inherit)

/-- A builder takes a name that there is no placement of, and no theme has a rule for it. -/
theorem build_midway_refused :
    Node.build "aligned" [.text "x", .text "middle"] = .ok midway ∧
      ∀ (t : PaletteTheme) (policy : EscapePolicy),
        renderValue t.toTheme policy (.node midway) = .error (.misuse .noAlignment) :=
  ⟨rfl, fun _ _ => rfl⟩

end Page

end ResumePress
