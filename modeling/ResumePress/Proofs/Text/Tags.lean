import ResumePress.Proofs.Text.Entities

/-!
# Well nested markup

Markup is read from left to right. Outside of tags there are no angle brackets but those that begin
a tag; a tag has a name and attributes in double quotes, which hold no angle brackets either. An
element has to be closed before the element around it is, except for the few that have no contents
and no closing tag. Well nested texts put one after the other are well nested, and so is what stands
between an opening that leaves some elements open and the closing that closes them.
-/
namespace ResumePress.Text

/-- A tag or a declaration. Attributes are not kept. -/
inductive Tag
  | opening (name : List Char)
  | closing (name : List Char)
  | doctype
  deriving DecidableEq, Repr

/-- The elements without contents, which are not closed. -/
def voidNames : List (List Char) :=
  [['m', 'e', 't', 'a'], ['l', 'i', 'n', 'k'], ['b', 'r']]

/-- Names of elements and of attributes are made of letters, digits and hyphens. -/
def isNameCharacter (c : Char) : Bool :=
  c.isAlphanum || c == '-'

/-- Where the next character stands: between tags, or at some place in a tag of the given name. -/
inductive Tag.Place
  /-- Outside of tags. -/
  | between
  /-- Behind the bracket that begins a tag. -/
  | bracket
  /-- In the name of an opening tag. -/
  | name (name : List Char)
  /-- In front of an attribute or the end of the tag. -/
  | gap (name : List Char)
  /-- In the name of an attribute. -/
  | attributeName (name : List Char)
  /-- Behind the sign between an attribute and its value. -/
  | equals (name : List Char)
  /-- Between the quotes of a value. -/
  | value (name : List Char)
  /-- Behind the quotes of a value. -/
  | quoted (name : List Char)
  /-- In the name of a closing tag. -/
  | closing (name : List Char)
  /-- In a declaration. -/
  | declaration (words : List Char)
  deriving DecidableEq, Repr

/-- What a character brings a reader to: a place in a tag or between tags, or the end of a tag. -/
inductive Turn
  | place (p : Tag.Place)
  | tag (t : Tag)

/-- The turn at a character, if it can stand at this place. -/
def Tag.Place.turn? : Tag.Place → Char → Option Turn
  | between, c =>
    if c = '<' then some (.place bracket) else if c = '>' then none else some (.place between)
  | bracket, c =>
    if c = '/' then some (.place (.closing []))
    else if c = '!' then some (.place (.declaration []))
    else if isNameCharacter c then some (.place (.name [c])) else none
  | name n, c =>
    if isNameCharacter c then some (.place (.name (n ++ [c])))
    else if c.isWhitespace then some (.place (.gap n))
    else if c = '>' then some (.tag (.opening n)) else none
  | gap n, c =>
    if isNameCharacter c then some (.place (.attributeName n))
    else if c.isWhitespace then some (.place (.gap n))
    else if c = '>' then some (.tag (.opening n)) else none
  | attributeName n, c =>
    if isNameCharacter c then some (.place (.attributeName n))
    else if c = '=' then some (.place (.equals n)) else none
  | equals n, c => if c = '\x22' then some (.place (.value n)) else none
  | value n, c =>
    if c = '\x22' then some (.place (.quoted n))
    else if c = '<' ∨ c = '>' then none else some (.place (.value n))
  | quoted n, c =>
    if c.isWhitespace then some (.place (.gap n))
    else if c = '>' then some (.tag (.opening n)) else none
  | closing n, c =>
    if isNameCharacter c then some (.place (.closing (n ++ [c])))
    else if c = '>' then some (.tag (.closing n)) else none
  | declaration ws, c =>
    if c = '>' then
      if ws.take 8 = ['D', 'O', 'C', 'T', 'Y', 'P', 'E', ' '] then some (.tag .doctype) else none
    else if c = '<' then none else some (.place (.declaration (ws ++ [c])))

/-- The elements that are open behind a tag, the innermost first. A closing tag has to be that of
the innermost element. -/
def Tag.nest? : Tag → List (List Char) → Option (List (List Char))
  | opening n, pending => if n ∈ voidNames then some pending else some (n :: pending)
  | closing _, [] => none
  | closing n, m :: pending => if n = m then some pending else none
  | doctype, pending => some pending

/-- How far markup has been read: where the next character stands, and which elements are open. -/
structure Reader where
  place : Tag.Place
  pending : List (List Char)
  deriving DecidableEq, Repr

namespace Reader

def step? (r : Reader) (c : Char) : Option Reader :=
  match r.place.turn? c with
  | none => none
  | some (.place p) => some ⟨p, r.pending⟩
  | some (.tag t) => (t.nest? r.pending).map fun pending => ⟨.between, pending⟩

def read? (r : Reader) (cs : List Char) : Option Reader :=
  cs.foldlM step? r

def within (pending : List (List Char)) : Reader :=
  ⟨.between, pending⟩

end Reader

/-- The text brings the reader from `a` to `b`. -/
def Leads (a b : Reader) (s : String) : Prop :=
  a.read? s.toList = some b

instance (a b : Reader) (s : String) : Decidable (Leads a b s) :=
  inferInstanceAs (Decidable (_ = _))

/-- All tags of the text are well formed and nested, and there are no other angle brackets. -/
def WellNested (s : String) : Prop :=
  Leads (.within []) (.within []) s

instance (s : String) : Decidable (WellNested s) :=
  inferInstanceAs (Decidable (Leads _ _ s))

/-! ## Reading on -/

theorem Leads.append {a b c : Reader} {s t : String} (hs : Leads a b s) (ht : Leads b c t) :
    Leads a c (s ++ t) := by
  rw [Leads, Reader.read?, String.toList_append, List.foldlM_append]
  exact Option.bind_eq_some_iff.mpr ⟨b, hs, ht⟩

theorem leads_literal {a b : Reader} {l : List Char} (h : a.read? l = some b) :
    Leads a b (String.ofList l) := by
  rw [Leads, String.toList_ofList]
  exact h

theorem Tag.nest?_append {t : Tag} {pending pending' : List (List Char)}
    (h : t.nest? pending = some pending') (below : List (List Char)) :
    t.nest? (pending ++ below) = some (pending' ++ below) := by
  cases t with
  | opening n =>
    rw [nest?] at h ⊢
    split at h <;> cases h <;> simp_all
  | closing n =>
    cases pending with
    | nil => cases h
    | cons m pending =>
      rw [nest?] at h
      rw [List.cons_append, nest?]
      split at h
      next hnm =>
        cases h
        rw [if_pos hnm]
      next => cases h
  | doctype =>
    cases h
    rfl

/-- A step does not depend on the elements further out. -/
theorem Reader.step?_append {p p' : Tag.Place} {pending pending' : List (List Char)} {c : Char}
    (h : step? ⟨p, pending⟩ c = some ⟨p', pending'⟩) (below : List (List Char)) :
    step? ⟨p, pending ++ below⟩ c = some ⟨p', pending' ++ below⟩ := by
  unfold step? at h ⊢
  dsimp only at h ⊢
  cases hturn : p.turn? c with
  | none => rw [hturn] at h; cases h
  | some turn =>
    rw [hturn] at h
    cases turn with
    | place q =>
      cases h
      rfl
    | tag t =>
      obtain ⟨rest, hrest, heq⟩ := Option.map_eq_some_iff.mp h
      cases heq
      dsimp only
      rw [Tag.nest?_append hrest below]
      rfl

/-- A text that is read inside of some elements is read in the same way inside of more. -/
theorem Leads.inside {p p' : Tag.Place} {pending pending' : List (List Char)} {s : String}
    (h : Leads ⟨p, pending⟩ ⟨p', pending'⟩ s) (below : List (List Char)) :
    Leads ⟨p, pending ++ below⟩ ⟨p', pending' ++ below⟩ s := by
  unfold Leads Reader.read? at h ⊢
  generalize s.toList = cs at h ⊢
  induction cs generalizing p pending with
  | nil =>
    cases h
    rfl
  | cons c cs ih =>
    rw [List.foldlM_cons] at h ⊢
    obtain ⟨⟨q, rest⟩, hstep, hrest⟩ := Option.bind_eq_some_iff.mp h
    exact Option.bind_eq_some_iff.mpr ⟨_, Reader.step?_append hstep below, ih hrest⟩

/-- A text that leaves the reader where it is, character by character. -/
theorem leads_self {a : Reader} {s : String} (h : ∀ c ∈ s.toList, a.step? c = some a) :
    Leads a a s := by
  unfold Leads Reader.read?
  generalize s.toList = cs at h ⊢
  induction cs with
  | nil => rfl
  | cons c cs ih =>
    rw [List.forall_mem_cons] at h
    rw [List.foldlM_cons]
    exact Option.bind_eq_some_iff.mpr ⟨a, h.1, ih h.2⟩

/-! ## Well nested texts -/

theorem wellNested_empty : WellNested "" := rfl

theorem WellNested.append {s t : String} (hs : WellNested s) (ht : WellNested t) :
    WellNested (s ++ t) :=
  Leads.append hs ht

theorem wellNested_of_notMem {s : String} (hopen : '<' ∉ s.toList) (hclose : '>' ∉ s.toList) :
    WellNested s := by
  apply leads_self
  intro c hc
  have hlt : c ≠ '<' := fun h => hopen (h ▸ hc)
  have hgt : c ≠ '>' := fun h => hclose (h ▸ hc)
  simp [Reader.step?, Reader.within, Tag.Place.turn?, hlt, hgt]

theorem wellNested_of_isUnmarked {s : String} (h : IsUnmarked s.toList) : WellNested s :=
  wellNested_of_notMem (fun hc => absurd (h _ hc) (by decide)) fun hc => absurd (h _ hc) (by decide)

theorem leads_value {s : String} (h : IsUnmarked s.toList) (n : List Char)
    (pending : List (List Char)) : Leads ⟨.value n, pending⟩ ⟨.value n, pending⟩ s := by
  apply leads_self
  intro c hc
  have hmark := h c hc
  have hne : ∀ d, isMark d = true → c ≠ d := by
    rintro d hd rfl
    rw [hmark] at hd
    cases hd
  have hquote := hne '\x22' rfl
  have hlt := hne '<' rfl
  have hgt := hne '>' rfl
  simp [Reader.step?, Tag.Place.turn?, hquote, hlt, hgt]

example : WellNested "<p class=\x22a\x22>1 &lt; 2<br></p>" := by
  decide

example : ¬ WellNested "<b><i>crossed</b></i>" := by
  decide

/-- The closing closes what the opening has opened. -/
def Encloses (opening closing : String) : Prop :=
  ∃ pending, Leads (.within []) (.within pending) opening ∧
    Leads (.within pending) (.within []) closing

theorem encloses_literal {l l' : List Char} (pending : List (List Char))
    (ho : (Reader.within []).read? l = some (.within pending))
    (hc : (Reader.within pending).read? l' = some (.within [])) :
    Encloses (String.ofList l) (String.ofList l') :=
  ⟨pending, leads_literal ho, leads_literal hc⟩

theorem Encloses.wellNested {opening closing s : String} (h : Encloses opening closing)
    (hs : WellNested s) : WellNested (opening ++ s ++ closing) := by
  obtain ⟨pending, ho, hc⟩ := h
  exact (ho.append (hs.inside pending)).append hc

end ResumePress.Text
