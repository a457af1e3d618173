import ResumePress.Proofs.Page.Make

/-!
# What a reader of a page sees

A reader sees the body of a page, without the tags and with characters in place of the entities. The
wrappers of nodes show nothing, so a node shows what its payload shows, or what its children show
line by line.
-/
namespace ResumePress

/-- Only a document is framed as a page of its own. -/
def Node.isDocument : Node → Bool
  | .document _ => true
  | _ => false

namespace Page

/-! ## Parts of a text -/

def upTo (part : List Char) : List Char → List Char
  | [] => []
  | c :: cs => if part.isPrefixOf (c :: cs) then [] else c :: upTo part cs

def behind (part : List Char) : List Char → List Char
  | [] => []
  | c :: cs => if part.isPrefixOf (c :: cs) then (c :: cs).drop part.length else behind part cs

/-- The two texts differ before either of them ends. -/
def mismatch : List Char → List Char → Bool
  | p :: ps, c :: cs => p != c || mismatch ps cs
  | _, _ => false

/-- No occurrence of `part` begins in the text, whatever follows. -/
def avoids (part : List Char) : List Char → Bool
  | [] => true
  | c :: cs => mismatch part (c :: cs) && avoids part cs

theorem mismatch_append {ps cs : List Char} (h : mismatch ps cs = true) (rest : List Char) :
    mismatch ps (cs ++ rest) = true := by
  induction ps generalizing cs with
  | nil => cases h
  | cons p ps ih =>
    cases cs with
    | nil => cases h
    | cons c cs =>
      rw [mismatch, Bool.or_eq_true] at h
      rw [List.cons_append, mismatch, Bool.or_eq_true]
      exact h.imp_right ih

theorem isPrefixOf_of_mismatch {ps cs : List Char} (h : mismatch ps cs = true) :
    ps.isPrefixOf cs = false := by
  induction ps generalizing cs with
  | nil => cases h
  | cons p ps ih =>
    cases cs with
    | nil => rfl
    | cons c cs =>
      rw [mismatch, Bool.or_eq_true] at h
      rw [List.isPrefixOf_cons_cons, Bool.and_eq_false_iff]
      rcases h with h | h
      · exact .inl (by simpa using h)
      · exact .inr (ih h)

theorem avoids_append {part s t : List Char} (hs : avoids part s = true)
    (ht : avoids part t = true) : avoids part (s ++ t) = true := by
  induction s with
  | nil => exact ht
  | cons c cs ih =>
    rw [avoids, Bool.and_eq_true] at hs
    rw [List.cons_append, avoids, Bool.and_eq_true]
    exact ⟨mismatch_append hs.1 t, ih hs.2⟩

theorem avoids_of_notMem {p : Char} {ps s : List Char} (h : p ∉ s) : avoids (p :: ps) s = true := by
  induction s with
  | nil => rfl
  | cons c cs ih =>
    rw [List.mem_cons, not_or] at h
    rw [avoids, mismatch, ih h.2, Bool.and_true, Bool.or_eq_true]
    exact .inl (by simpa using h.1)

theorem upTo_append {part s : List Char} (h : avoids part s = true) (rest : List Char) :
    upTo part (s ++ rest) = s ++ upTo part rest := by
  induction s with
  | nil => rfl
  | cons c cs ih =>
    rw [avoids, Bool.and_eq_true] at h
    have hne := isPrefixOf_of_mismatch (mismatch_append h.1 rest)
    rw [List.cons_append] at hne
    rw [List.cons_append, upTo, hne, ih h.2]
    rfl

theorem behind_append {part s : List Char} (h : avoids part s = true) (rest : List Char) :
    behind part (s ++ rest) = behind part rest := by
  induction s with
  | nil => rfl
  | cons c cs ih =>
    rw [avoids, Bool.and_eq_true] at h
    have hne := isPrefixOf_of_mismatch (mismatch_append h.1 rest)
    rw [List.cons_append] at hne
    rw [List.cons_append, behind, hne]
    exact ih h.2

/-! ## Tags -/

/-- Whether a text that begins inside of a tag, or not, ends inside of one. -/
def insideAfter (inside : Bool) : List Char → Bool
  | [] => inside
  | c :: cs => insideAfter (if inside then c != '>' else c == '<') cs

/-- The text without its tags. A tag reaches from `<` to the next `>`. -/
def untagged (inside : Bool) : List Char → List Char
  | [] => []
  | c :: cs =>
    if inside then untagged (c != '>') cs
    else if c = '<' then untagged true cs
    else c :: untagged false cs

theorem insideAfter_append (inside : Bool) (s t : List Char) :
    insideAfter inside (s ++ t) = insideAfter (insideAfter inside s) t := by
  induction s generalizing inside with
  | nil => rfl
  | cons c cs ih => exact ih _

theorem untagged_append (inside : Bool) (s t : List Char) :
    untagged inside (s ++ t) = untagged inside s ++ untagged (insideAfter inside s) t := by
  induction s generalizing inside with
  | nil => rfl
  | cons c cs ih =>
    rw [List.cons_append, untagged, untagged, insideAfter]
    cases inside with
    | true => exact ih _
    | false =>
      by_cases hc : c = '<'
      · subst hc
        exact ih true
      · simp only [Bool.false_eq_true, if_false, hc, ih, List.cons_append, beq_false_of_ne hc]

/-- Without marks, a text is a text throughout or stays inside of its tag. -/
theorem untagged_of_isUnmarked {s : List Char} (h : Text.IsUnmarked s) (inside : Bool) :
    insideAfter inside s = inside ∧
      untagged inside s = if inside then [] else s := by
  induction s with
  | nil => cases inside <;> exact ⟨rfl, rfl⟩
  | cons c cs ih =>
    obtain ⟨hin, htext⟩ := ih fun d hd => h d (by simp [hd])
    have hc := h c (by simp)
    have hlt : c ≠ '<' := by rintro rfl; cases hc
    have hgt : c ≠ '>' := by rintro rfl; cases hc
    rw [insideAfter, untagged, beq_false_of_ne hlt, bne_iff_ne.mpr hgt]
    cases inside with
    | true => exact ⟨hin, htext⟩
    | false => exact ⟨hin, by simpa [hlt] using htext⟩

/-! ## What markup shows -/

def visible (page : String) : String :=
  String.ofList (Text.decoded (untagged false
    (upTo "</body>".toList (behind "<body>".toList page.toList))))

/-- The markup leads from inside or outside of a tag to inside or outside of one, shows nothing, and
does not end the body. -/
structure Silent (before after : Bool) (s : String) : Prop where
  inside : insideAfter before s.toList = after
  text : untagged before s.toList = []
  body : avoids "</body>".toList s.toList = true

/-- The markup consists of whole tags and texts, shows `x`, and does not end the body. -/
structure Shows (s x : String) : Prop where
  inside : insideAfter false s.toList = false
  text : ∀ rest, Text.decoded (untagged false s.toList ++ rest) = x.toList ++ Text.decoded rest
  body : avoids "</body>".toList s.toList = true

instance (before after : Bool) (s : String) : Decidable (Silent before after s) :=
  decidable_of_iff (insideAfter before s.toList = after ∧ untagged before s.toList = [] ∧
    avoids "</body>".toList s.toList = true)
    ⟨fun h => ⟨h.1, h.2.1, h.2.2⟩, fun h => ⟨h.inside, h.text, h.body⟩⟩

theorem Silent.append {a b c : Bool} {s t : String} (hs : Silent a b s) (ht : Silent b c t) :
    Silent a c (s ++ t) where
  inside := by rw [String.toList_append, insideAfter_append, hs.inside, ht.inside]
  text := by rw [String.toList_append, untagged_append, hs.text, hs.inside, ht.text]; rfl
  body := by
    rw [String.toList_append]
    exact avoids_append hs.body ht.body

theorem avoids_of_isUnmarked {s : List Char} (h : Text.IsUnmarked s) :
    avoids "</body>".toList s = true :=
  avoids_of_notMem fun hm => absurd (h _ hm) (by decide)

/-- An attribute without marks stays in its tag. -/
theorem silent_of_isUnmarked {s : String} (h : Text.IsUnmarked s.toList) :
    Silent true true s where
  inside := (untagged_of_isUnmarked h true).1
  text := (untagged_of_isUnmarked h true).2
  body := avoids_of_isUnmarked h

theorem Silent.shows {s : String} (h : Silent false false s) : Shows s "" where
  inside := h.inside
  text rest := by rw [h.text]; rfl
  body := h.body

theorem Shows.append {s t x y : String} (hs : Shows s x) (ht : Shows t y) :
    Shows (s ++ t) (x ++ y) where
  inside := by rw [String.toList_append, insideAfter_append, hs.inside, ht.inside]
  text rest := by
    rw [String.toList_append, String.toList_append, untagged_append, hs.inside, List.append_assoc,
      hs.text, ht.text, List.append_assoc]
  body := by
    rw [String.toList_append]
    exact avoids_append hs.body ht.body

theorem shows_escape (s : String) : Shows (Text.escape s) s := by
  have hmarks := Text.isUnmarked_escape s
  obtain ⟨hin, htext⟩ := untagged_of_isUnmarked hmarks false
  refine ⟨hin, fun rest => ?_, avoids_of_isUnmarked hmarks⟩
  rw [htext]
  exact Text.decoded_escape_append s rest

theorem shows_self {s : String} (h : Text.IsBland s.toList) : Shows s s := by
  have hs := shows_escape s
  rwa [Text.escape_eq_self h] at hs

theorem shows_stacked {ss xs : List String} (h : List.Forall₂ Shows ss xs) :
    Shows (stacked ss) (stacked xs) := by
  induction h with
  | nil => exact shows_self (by decide)
  | cons hs hss ih =>
    cases hss with
    | nil => simpa using hs
    | cons =>
      rw [stacked_cons_cons, stacked_cons_cons]
      exact (hs.append (shows_self (by decide))).append ih

theorem shows_within {opening closing s x : String} (ho : Silent false false opening)
    (hs : Shows s x) (hc : Silent false false closing) : Shows (within opening closing s) x := by
  have h := (ho.shows.append hs).append hc.shows
  rwa [String.empty_append, String.append_empty] at h

theorem shows_wrapped {opening closing : String} (ho : Silent false false opening)
    (hc : Silent false false closing) {ss xs : List String} (h : List.Forall₂ Shows ss xs) :
    Shows (wrapped opening closing ss) (stacked xs) := by
  apply shows_stacked
  rw [List.forall₂_map_left_iff]
  exact h.imp fun _ _ hs => shows_within ho hs hc

/-! ## What nodes show -/

def NodeShows (t : PaletteTheme) (v : Value) (x : String) : Prop :=
  ∃ s, renderValue t.toTheme .escape v = .ok s ∧ Shows s x

/-- Nothing of a wrapper is seen. -/
structure Wrapper.IsSilent (u : Wrapper) : Prop where
  opening : Silent false false u.opening
  cellOpening : Silent false false u.cellOpening
  cellClosing : Silent false false u.cellClosing
  closing : Silent false false u.closing

theorem isSilent_bare {opening closing : String} (ho : Silent false false opening)
    (hc : Silent false false closing) : (Wrapper.bare opening closing).IsSilent :=
  ⟨ho, ⟨rfl, rfl, rfl⟩, ⟨rfl, rfl, rfl⟩, hc⟩

theorem silent_tag {front x back : String} (hfront : Silent false true front)
    (hx : Silent true true x) (hback : Silent true false back) :
    Silent false false (front ++ x ++ back) :=
  (hfront.append hx).append hback

theorem silent_tag_of_two {front x middle y back : String} (hfront : Silent false true front)
    (hx : Silent true true x) (hmiddle : Silent true true middle) (hy : Silent true true y)
    (hback : Silent true false back) : Silent false false (front ++ x ++ middle ++ y ++ back) :=
  (((hfront.append hx).append hmiddle).append hy).append hback

theorem isUnmarked_hex (t : PaletteTheme) (k : Color) :
    Text.IsUnmarked (t.dress.hex k).toList := by
  have hall : Text.IsUnmarked Rgb.alphabet := by decide
  exact fun c hc => hall c (Rgb.mem_hex hc)

/-- Only a document brings a frame; every other wrapper is made of whole tags. -/
theorem isSilent_wrapper {n : Node} (hn : n.IsPlain) (hdoc : n.isDocument = false)
    {t : PaletteTheme} {u : Wrapper} (hu : n.wrapper t.dress .escape = .ok u) : u.IsSilent := by
  have hdiv : Silent false false "</div>" := by decide +kernel
  have hcolumn : Silent false false columnOpening := by decide +kernel
  have hrow : Silent false false rowOpening := by decide +kernel
  have hitem : Silent false false "<li>" := by decide +kernel
  have hitemEnd : Silent false false "</li>" := by decide +kernel
  cases n with
  | document => cases hdoc
  | fadeIn => exact hn.elim
  | container =>
    cases hu
    exact isSilent_bare (by decide +kernel) hdiv
  | aligned c h v =>
    obtain ⟨⟨a, rfl⟩, b, rfl⟩ := hn
    rw [wrapper_aligned] at hu
    cases hu
    exact isSilent_bare (silent_tag (by decide +kernel)
      (silent_of_isUnmarked (isUnmarked_rules a b)) (by decide +kernel)) hdiv
  | row =>
    cases hu
    exact ⟨hrow, hcolumn, hdiv, hdiv⟩
  | column =>
    cases hu
    exact ⟨hcolumn, hrow, hdiv, hdiv⟩
  | orderedList =>
    cases hu
    exact ⟨(by decide +kernel), hitem, hitemEnd, (by decide +kernel)⟩
  | unorderedList =>
    cases hu
    exact ⟨(by decide +kernel), hitem, hitemEnd, (by decide +kernel)⟩
  | percentBar p v =>
    cases hu
    have hpercent := silent_of_isUnmarked (Whole.isUnmarked_printed p.nonneg)
    exact isSilent_bare (silent_tag_of_two (by decide +kernel) hpercent (by decide +kernel) hpercent
      (by decide +kernel)) (by decide +kernel)
  | rectangle c r k =>
    cases hu
    have hradius := silent_of_isUnmarked (Whole.isUnmarked_printed r.nonneg)
    exact isSilent_bare (silent_tag_of_two (by decide +kernel) hradius (by decide +kernel)
      (silent_of_isUnmarked (isUnmarked_hex t _)) (by decide +kernel)) hdiv
  | link c url =>
    obtain ⟨s, rfl⟩ := hn
    cases hu
    have haddress := silent_of_isUnmarked (Text.isUnmarked_escape s)
    exact isSilent_bare (silent_tag (by decide +kernel) haddress (by decide +kernel))
      (by decide +kernel)
  | foreground c k =>
    cases hu
    exact isSilent_bare (silent_tag (by decide +kernel)
      (silent_of_isUnmarked (isUnmarked_hex t _)) (by decide +kernel)) hdiv
  | background c k =>
    cases hu
    exact isSilent_bare (silent_tag (by decide +kernel)
      (silent_of_isUnmarked (isUnmarked_hex t _)) (by decide +kernel)) hdiv
  | card c =>
    cases hu
    have hopening : Silent false false Theme.cardOpening := by decide +kernel
    have hclosing : Silent false false Theme.cardClosing := by decide +kernel
    exact isSilent_bare hopening hclosing
  | _ =>
    cases hu
    exact isSilent_bare (by decide +kernel) (by decide +kernel)

theorem nodeShows_payload {t : PaletteTheme} {n : Node} {v : Value} {x : String}
    (hs : n.SpellsIn t) (hn : n.IsPlain) (hdoc : n.isDocument = false)
    (hc : n.contents = .payload v)
    (h : Shows (v.embedded .escape) x) : NodeShows t (.node n) x := by
  obtain ⟨u, hu⟩ := exists_wrapper hn t.dress .escape
  have hsilent := isSilent_wrapper hn hdoc hu
  exact ⟨_, renderNode_payload hs hu hc, shows_within hsilent.opening h hsilent.closing⟩

theorem nodeShows_children {t : PaletteTheme} {n : Node} {vs : List Value} {xs : List String}
    (hs : n.SpellsIn t) (hn : n.IsPlain) (hdoc : n.isDocument = false)
    (hc : n.contents = .children vs)
    (h : List.Forall₂ (NodeShows t) vs xs) : NodeShows t (.node n) (stacked xs) := by
  obtain ⟨u, hu⟩ := exists_wrapper hn t.dress .escape
  have hsilent := isSilent_wrapper hn hdoc hu
  obtain ⟨ss, hss, hxs⟩ := exists_rendered h
  exact ⟨_, renderNode_children hs hu hc hss, shows_within hsilent.opening
    (shows_wrapped hsilent.cellOpening hsilent.cellClosing hxs) hsilent.closing⟩

/-! ## What a page shows -/

theorem behind_append_self {part : List Char} (h : part ≠ []) (rest : List Char) :
    behind part (part ++ rest) = rest := by
  cases part with
  | nil => exact absurd rfl h
  | cons p ps =>
    have hself : (p :: ps).isPrefixOf (p :: (ps ++ rest)) = true :=
      List.isPrefixOf_iff_prefix.mpr (List.prefix_append (p :: ps) rest)
    rw [List.cons_append, behind, if_pos hself]
    exact List.drop_left

theorem upTo_append_self {part : List Char} (h : part ≠ []) (rest : List Char) :
    upTo part (part ++ rest) = [] := by
  cases part with
  | nil => exact absurd rfl h
  | cons p ps =>
    have hself : (p :: ps).isPrefixOf (p :: (ps ++ rest)) = true :=
      List.isPrefixOf_iff_prefix.mpr (List.prefix_append (p :: ps) rest)
    rw [List.cons_append, upTo, if_pos hself]

theorem avoids_append_string {part : List Char} {s t : String}
    (hs : avoids part s.toList = true) (ht : avoids part t.toList = true) :
    avoids part (s ++ t).toList = true := by
  rw [String.toList_append]
  exact avoids_append hs ht

set_option maxRecDepth 2000 in
/-- The fixed part of a head. Its long literals are taken apart into characters first. -/
theorem avoids_references :
    avoids "<body>".toList (preamble ++ sheetReference ++ scripts).toList = true := by
  have hpreamble : avoids "<body>".toList preamble.toList = true := by
    refine avoids_append_string (avoids_append_string ?_ ?_) ?_
    all_goals
      iterate 2 rw [String.toList_ofList]
      decide +kernel
  have hsheet : avoids "<body>".toList sheetReference.toList = true := by
    unfold sheetReference
    iterate 2 rw [String.toList_ofList]
    decide +kernel
  have hscripts : avoids "<body>".toList scripts.toList = true := by
    refine avoids_append_string (avoids_append_string ?_ ?_) ?_
    all_goals
      iterate 2 rw [String.toList_ofList]
      decide +kernel
  exact avoids_append_string (avoids_append_string hpreamble hsheet) hscripts

theorem avoids_head {css foreground background : String} (hcss : '<' ∉ css.toList)
    (hf : '<' ∉ foreground.toList) (hb : '<' ∉ background.toList) :
    avoids "<body>".toList (preamble ++ sheetReference ++ scripts ++
      style css foreground background ++ "</head>").toList = true := by
  have hstyle : avoids "<body>".toList (style css foreground background).toList = true := by
    refine avoids_append_string (avoids_append_string (avoids_append_string (avoids_append_string
      (avoids_append_string (avoids_append_string ?_ (avoids_of_notMem hcss)) ?_)
      (avoids_of_notMem hf)) ?_) (avoids_of_notMem hb)) ?_
    all_goals decide +kernel
  exact avoids_append_string (avoids_append_string avoids_references hstyle) (by decide +kernel)

/-- A reader of a page sees what its contents show. -/
theorem visible_frame {css foreground background contents x : String} (hcss : '<' ∉ css.toList)
    (hf : '<' ∉ foreground.toList) (hb : '<' ∉ background.toList) (h : Shows contents x) :
    visible (frame css foreground background contents) = x := by
  have hblank : Silent false false blankLines := by decide +kernel
  have hbody := shows_within hblank h hblank
  have hpage : (frame css foreground background contents).toList =
      (preamble ++ sheetReference ++ scripts ++ style css foreground background ++
        "</head>").toList ++ ("<body>".toList ++ ((within blankLines blankLines contents).toList ++
          ("</body>".toList ++ "</html>".toList))) := by
    have hstart : "</head><body>" = "</head>" ++ "<body>" := by decide +kernel
    have hfinish : "</body></html>" = "</body>" ++ "</html>" := by decide +kernel
    rw [frame, hstart, hfinish]
    simp only [within, String.toList_append, List.append_assoc]
  have htext := hbody.text []
  rw [List.append_nil, Text.decoded, List.append_nil] at htext
  rw [visible, hpage, behind_append (avoids_head hcss hf hb), behind_append_self (by decide),
    upTo_append hbody.body, upTo_append_self (by decide), List.append_nil, htext,
    String.ofList_toList]

end Page

end ResumePress
