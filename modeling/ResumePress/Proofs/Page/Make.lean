import Mathlib.Data.List.Basic
import ResumePress.Proofs.Number.Decimal
import ResumePress.Proofs.Page.Forms
import ResumePress.Proofs.Resume.Plain
import ResumePress.Proofs.Text.Entities

/-!
# Reading the make of a node

The first characters of a node's markup tell its kind, and its attributes stand between characters
that they do not hold. So an opening tells everything about its node but what the node holds, where
colors count as the triples that the theme gives them.
-/
namespace ResumePress

open Text (EscapePolicy)

/-! ## Nodes of one make -/

/-- Placements are members of their vocabularies and the address is plain; and it is no entrance. -/
def Node.IsPlain : Node → Prop
  | .aligned _ h v => (∃ a, h = .horizontal a) ∧ ∃ b, v = .vertical b
  | .link _ url => url.IsPlain
  | .fadeIn _ => False
  | _ => True

theorem Node.IsPlain.hasForm {n : Node} (h : n.IsPlain) : n.HasForm := by
  cases n with
  | aligned c h' v =>
    obtain ⟨⟨a, rfl⟩, b, rfl⟩ := h
    exact ⟨⟨_, Page.horizontalRule_horizontal a⟩, _, Page.verticalRule_vertical b⟩
  | fadeIn => exact h.elim
  | _ => trivial

/-- The two nodes are of one kind and have the same attributes. Numbers are compared as numbers,
and colors as the triples that the theme gives them. -/
inductive Node.SameMake (t : PaletteTheme) : Node → Node → Prop
  | document (cs cs' : List Value) : SameMake t (.document cs) (.document cs')
  | container (cs cs' : List Value) : SameMake t (.container cs) (.container cs')
  | aligned (c c' h v : Value) : SameMake t (.aligned c h v) (.aligned c' h v)
  | row (cs cs' : List Value) : SameMake t (.row cs) (.row cs')
  | column (cs cs' : List Value) : SameMake t (.column cs) (.column cs')
  | text (v v' : Value) : SameMake t (.text v) (.text v')
  | title (v v' : Value) : SameMake t (.title v) (.title v')
  | sectionTitle (v v' : Value) : SameMake t (.sectionTitle v) (.sectionTitle v')
  | orderedList (cs cs' : List Value) : SameMake t (.orderedList cs) (.orderedList cs')
  | unorderedList (cs cs' : List Value) : SameMake t (.unorderedList cs) (.unorderedList cs')
  | percentBar {p p' : Percent} (v v' : Value) (hp : p.whole.amount = p'.whole.amount) :
    SameMake t (.percentBar p v) (.percentBar p' v')
  | rectangle {r r' : Radius} {k k' : Color} (c c' : Value)
    (hr : r.whole.amount = r'.whole.amount)
    (hk : (t.palette.rgb k).channels = (t.palette.rgb k').channels) :
    SameMake t (.rectangle c r k) (.rectangle c' r' k')
  | card (c c' : Value) : SameMake t (.card c) (.card c')
  | italics (c c' : Value) : SameMake t (.italics c) (.italics c')
  | bold (c c' : Value) : SameMake t (.bold c) (.bold c')
  | link (c c' url : Value) : SameMake t (.link c url) (.link c' url)
  | foreground {k k' : Color} (c c' : Value)
    (hk : (t.palette.rgb k).channels = (t.palette.rgb k').channels) :
    SameMake t (.foreground c k) (.foreground c' k')
  | background {k k' : Color} (c c' : Value)
    (hk : (t.palette.rgb k).channels = (t.palette.rgb k').channels) :
    SameMake t (.background c k) (.background c' k')

namespace Page

theorem exists_wrapper {n : Node} (h : n.IsPlain) (d : Dress) (policy : EscapePolicy) :
    ∃ u, n.wrapper d policy = .ok u :=
  (exists_wrapper_iff n d policy).mpr h.hasForm

theorem hex_eq_of_channels_eq {t : PaletteTheme} {k k' : Color}
    (h : (t.palette.rgb k).channels = (t.palette.rgb k').channels) :
    t.dress.hex k = t.dress.hex k' :=
  Rgb.hex_eq_iff.mpr h

theorem wrapper_eq_of_sameMake {t : PaletteTheme} {n m : Node} (h : n.SameMake t m)
    (policy : EscapePolicy) : n.wrapper t.dress policy = m.wrapper t.dress policy := by
  cases h with
  | percentBar v v' hp => rw [Node.wrapper, Node.wrapper, Whole.printed_inj.mpr hp]
  | rectangle c c' hr hk =>
    rw [Node.wrapper, Node.wrapper, Whole.printed_inj.mpr hr, hex_eq_of_channels_eq hk]
  | foreground c c' hk => rw [Node.wrapper, Node.wrapper, hex_eq_of_channels_eq hk]
  | background c c' hk => rw [Node.wrapper, Node.wrapper, hex_eq_of_channels_eq hk]
  | _ => rfl

/-! ## The kind -/

/-- The kind of node that markup begins with. The divisions differ in the first word of their class
or their style, and the styles that begin with a height in the one after it. -/
def kindAt? : List Char → Option String
  | '<' :: '!' :: _ => some "Document"
  | '<' :: 'p' :: _ => some "Text"
  | '<' :: 'h' :: '1' :: _ => some "Title"
  | '<' :: 'h' :: '4' :: _ => some "SectionTitle"
  | '<' :: 'o' :: _ => some "OrderedList"
  | '<' :: 'u' :: _ => some "UnorderedList"
  | '<' :: 'i' :: _ => some "Italics"
  | '<' :: 'b' :: '>' :: _ => some "Bold"
  | '<' :: 'a' :: _ => some "Link"
  | '<' :: 'd' :: cs =>
    match cs[3]?, cs[10]?, cs[12]?, cs[23]? with
    | some 'c', some 'c', some 'n', _ => some "Container"
    | some 'c', some 'c', some 'l', _ => some "Column"
    | some 'c', some 'c', some 'r', _ => some "Section"
    | some 'c', some 'r', _, _ => some "Row"
    | some 'c', some 'p', _, _ => some "PercentBar"
    | some 's', some 'c', _, _ => some "ColoredForeground"
    | some 's', some 'b', _, _ => some "ColoredBackground"
    | some 's', some 'h', _, some 'w' => some "Aligned"
    | some 's', some 'h', _, some 'b' => some "Rectangle"
    | _, _, _, _ => none
  | _ => none

/-- What the beginning of a text tells, its beginning with more behind tells too. -/
theorem apply_append {α : Type} (f : List Char → α) {s t : String} {x : α}
    (h : ∀ a, f (s.toList ++ a) = x) (a : List Char) : f ((s ++ t).toList ++ a) = x := by
  rw [String.toList_append, List.append_assoc]
  exact h _

/-- What a literal tells is computed from its characters. -/
theorem apply_literal {α : Type} (f : List Char → α) {l : List Char} {x : α}
    (h : ∀ a, f (l ++ a) = x) (a : List Char) : f ((String.ofList l).toList ++ a) = x := by
  rw [String.toList_ofList]
  exact h a

theorem kindAt?_opening {n : Node} (hn : n.IsPlain) {t : PaletteTheme} {policy : EscapePolicy}
    {u : Wrapper} (hu : n.wrapper t.dress policy = .ok u) :
    ∀ a, kindAt? (u.opening.toList ++ a) = some n.kindName := by
  have more := @apply_append _ kindAt?
  have literal := @apply_literal _ kindAt?
  cases n with
  | aligned c h v =>
    obtain ⟨⟨a, rfl⟩, b, rfl⟩ := hn
    rw [wrapper_aligned] at hu
    cases hu
    exact more (more (literal fun _ => rfl))
  | fadeIn => exact hn.elim
  | document =>
    cases hu
    have hpreamble : ∀ a, kindAt? (preamble.toList ++ a) = some "Document" :=
      more (more (literal fun _ => rfl))
    exact more (more (more (more (more hpreamble))))
  | percentBar =>
    cases hu
    exact more (more (more (more (literal fun _ => rfl))))
  | rectangle =>
    cases hu
    exact more (more (more (more (literal fun _ => rfl))))
  | link =>
    cases hu
    exact more (more (literal fun _ => rfl))
  | foreground =>
    cases hu
    exact more (more (literal fun _ => rfl))
  | background =>
    cases hu
    exact more (more (literal fun _ => rfl))
  | card =>
    cases hu
    have hcard : ∀ a, kindAt? (Theme.cardOpening.toList ++ a) = some "Section" :=
      literal fun _ => rfl
    exact hcard
  | _ =>
    cases hu
    exact literal fun _ => rfl

/-! ## The attributes -/

/-- What is terminated by a character that it does not hold is found again. -/
theorem eq_of_append_cons_eq {c : Char} {x y r r' : List Char} (hx : c ∉ x) (hy : c ∉ y)
    (h : x ++ c :: r = y ++ c :: r') : x = y ∧ r = r' := by
  have htake : ∀ z s : List Char, c ∉ z → (z ++ c :: s).takeWhile (· ≠ c) = z := by
    intro z s hz
    have hne : ∀ d ∈ z, decide (d ≠ c) = true := by
      intro d hd
      simpa using fun he : d = c => hz (he ▸ hd)
    rw [List.takeWhile_append_of_pos hne, List.takeWhile_cons_of_neg (by simp), List.append_nil]
  have hxy : x = y := by rw [← htake x r hx, h, htake y r' hy]
  subst hxy
  exact ⟨rfl, (List.cons.inj (List.append_cancel_left h)).2⟩

/-- An attribute ends at the first character that it cannot hold. -/
theorem eq_of_terminated {p x y q q' : String} {c : Char} {r r' a b : List Char}
    (hq : q.toList = c :: r) (hq' : q'.toList = c :: r') (hx : c ∉ x.toList) (hy : c ∉ y.toList)
    (h : (p ++ x ++ q).toList ++ a = (p ++ y ++ q').toList ++ b) : x = y := by
  rw [String.toList_append, String.toList_append, String.toList_append, String.toList_append, hq,
    hq', List.append_assoc, List.append_assoc, List.append_assoc, List.append_assoc] at h
  have hxy := List.append_cancel_left h
  exact String.toList_inj.mp (eq_of_append_cons_eq hx hy hxy).1

theorem eq_of_terminated_of_two {p x y q z z' e : String} {c : Char} {r a b : List Char}
    (hq : q.toList = c :: r) (hx : c ∉ x.toList) (hy : c ∉ y.toList)
    (h : (p ++ x ++ q ++ z ++ e).toList ++ a = (p ++ y ++ q ++ z' ++ e).toList ++ b) : x = y := by
  have hsplit : ∀ (v w : String) (s : List Char), (p ++ v ++ q ++ w ++ e).toList ++ s =
      (p ++ v ++ q).toList ++ (w.toList ++ (e.toList ++ s)) := by
    intro v w s
    rw [String.toList_append, String.toList_append, List.append_assoc, List.append_assoc]
  rw [hsplit, hsplit] at h
  exact eq_of_terminated hq hq hx hy h

theorem notMem_printed {w : Whole} (hw : 0 ≤ w.amount) {c : Char} (hc : c.isDigit = false) :
    c ∉ w.printed.toList := by
  intro h
  rw [Whole.isDigit_of_mem_printed hw h] at hc
  cases hc

theorem notMem_hex (t : PaletteTheme) (k : Color) {c : Char} (hc : c ∉ Rgb.alphabet) :
    c ∉ (t.dress.hex k).toList :=
  fun h => hc (Rgb.mem_hex h)

theorem isUnmarked_rules (h : HorizontalAlignment) (v : VerticalAlignment) :
    Text.IsUnmarked (h.rule ++ v.rule).toList := by
  have hh : Text.IsUnmarked h.rule.toList := by cases h <;> decide
  have hv : Text.IsUnmarked v.rule.toList := by cases v <;> decide
  intro c hc
  rw [String.toList_append, List.mem_append] at hc
  exact hc.elim (hh c) (hv c)

theorem quote_notMem_rules (h : HorizontalAlignment) (v : VerticalAlignment) :
    '\x22' ∉ (h.rule ++ v.rule).toList :=
  fun hc => absurd (isUnmarked_rules h v _ hc) (by decide)

/-- Two placements are told apart by their rules together. -/
theorem rules_injective {h h' : HorizontalAlignment} {v v' : VerticalAlignment}
    (he : h.rule ++ v.rule = h'.rule ++ v'.rule) : h = h' ∧ v = v' := by
  have all : ∀ h ∈ HorizontalAlignment.all, ∀ v ∈ VerticalAlignment.all,
      ∀ h' ∈ HorizontalAlignment.all, ∀ v' ∈ VerticalAlignment.all,
      h.rule ++ v.rule = h'.rule ++ v'.rule → h = h' ∧ v = v' := by
    decide +kernel
  exact all h (by cases h <;> decide) v (by cases v <;> decide) h' (by cases h' <;> decide) v'
    (by cases v' <;> decide) he

/-- Nodes whose markup opens alike are of one make. -/
theorem sameMake_of_opening {t : PaletteTheme} {n m : Node} (hn : n.IsPlain) (hm : m.IsPlain)
    {u u' : Wrapper} (hu : n.wrapper t.dress .escape = .ok u)
    (hu' : m.wrapper t.dress .escape = .ok u') {a b : List Char}
    (h : u.opening.toList ++ a = u'.opening.toList ++ b) : n.SameMake t m := by
  have hkind : n.kindName = m.kindName := by
    have hn' := kindAt?_opening hn hu a
    rw [h, kindAt?_opening hm hu'] at hn'
    exact (Option.some.inj hn').symm
  cases n <;> cases m <;> try (simp only [Node.kindName, String.reduceEq] at hkind)
  case fadeIn.fadeIn => exact hn.elim
  case aligned.aligned c x y c' x' y' =>
    obtain ⟨⟨i, rfl⟩, j, rfl⟩ := hn
    obtain ⟨⟨i', rfl⟩, j', rfl⟩ := hm
    rw [wrapper_aligned] at hu hu'
    cases hu
    cases hu'
    have hrules := eq_of_terminated rfl rfl (quote_notMem_rules i j) (quote_notMem_rules i' j') h
    obtain ⟨rfl, rfl⟩ := rules_injective hrules
    exact .aligned _ _ _ _
  case percentBar.percentBar p v p' v' =>
    cases hu
    cases hu'
    have hpercent := eq_of_terminated_of_two rfl (notMem_printed p.nonneg (by decide))
      (notMem_printed p'.nonneg (by decide)) h
    exact .percentBar _ _ (Whole.printed_inj.mp hpercent)
  case rectangle.rectangle c r k c' r' k' =>
    cases hu
    cases hu'
    have hradius := eq_of_terminated_of_two rfl (notMem_printed r.nonneg (by decide))
      (notMem_printed r'.nonneg (by decide)) h
    rw [hradius] at h
    have hhex := eq_of_terminated rfl rfl (notMem_hex t k (by decide))
      (notMem_hex t k' (by decide)) h
    exact .rectangle _ _ (Whole.printed_inj.mp hradius) (Rgb.hex_eq_iff.mp hhex)
  case link.link c url c' url' =>
    obtain ⟨s, rfl⟩ := hn
    obtain ⟨s', rfl⟩ := hm
    cases hu
    cases hu'
    have haddress := eq_of_terminated rfl rfl (Text.notMem_escape rfl s)
      (Text.notMem_escape rfl s') h
    rw [Text.escape_injective haddress]
    exact .link _ _ _
  case foreground.foreground c k c' k' =>
    cases hu
    cases hu'
    have hhex := eq_of_terminated rfl rfl (notMem_hex t k (by decide))
      (notMem_hex t k' (by decide)) h
    exact .foreground _ _ (Rgb.hex_eq_iff.mp hhex)
  case background.background c k c' k' =>
    cases hu
    cases hu'
    have hhex := eq_of_terminated rfl rfl (notMem_hex t k (by decide))
      (notMem_hex t k' (by decide)) h
    exact .background _ _ (Rgb.hex_eq_iff.mp hhex)
  all_goals constructor

end Page

end ResumePress
