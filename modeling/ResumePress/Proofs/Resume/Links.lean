import Mathlib.Data.List.Forall2
import ResumePress.Proofs.Text.Addresses
import ResumePress.Proofs.Text.Entities
import ResumePress.Resume.Links

/-!
# Addresses of contact fields

A contact has one link for each field that is filled, in the order of the fields. An address is the
text of its field with an opening in front unless it needs none, so the address of an address is
that address again. Mail and phone addresses always begin as they should. The others are taken as
they are when they mention a scheme anywhere, so an address is complete unless its field mentions a
scheme without beginning with one.
-/
namespace ResumePress

/-! ## Openings -/

namespace Wording

variable {opening : String} {w : Wording}

theorem content_append_plain (h : Text.IsBland opening.toList) (w : Wording) :
    (append (.plain opening) w).content = opening ++ w.content := by
  cases w with
  | plain s => rfl
  | trusted s => exact congrArg (· ++ s) (Text.escape_eq_self h)

theorem prependOnce_of_beginsWith (h : Text.beginsWith opening w.content = true) :
    prependOnce (.plain opening) w = w :=
  if_pos h

theorem content_prependOnce (h : Text.IsBland opening.toList) (w : Wording) :
    (prependOnce (.plain opening) w).content =
      if Text.beginsWith opening w.content then w.content else opening ++ w.content := by
  rw [prependOnce]
  split
  · next hbegins => exact (if_pos hbegins).symm
  · next hbegins =>
    rw [content_append_plain h]
    exact (if_neg hbegins).symm

theorem beginsWith_prependOnce (h : Text.IsBland opening.toList) (w : Wording) :
    Text.beginsWith opening (prependOnce (.plain opening) w).content = true := by
  rw [content_prependOnce h]
  split
  · assumption
  · exact Text.beginsWith_append _ _

theorem completed_of_holds (h : Text.holds "://" w.content = true) : completed opening w = w :=
  if_pos h

/-- Whoever begins with an opening that names a scheme mentions one. -/
theorem content_completed (h : Text.IsBland opening.toList)
    (hopening : Text.holds "://" opening = true) (w : Wording) :
    (completed opening w).content =
      if Text.holds "://" w.content then w.content else opening ++ w.content := by
  rw [completed]
  split
  · rfl
  · next hholds =>
    have hbegins : Text.beginsWith opening w.content = false := by
      rw [← Bool.not_eq_true]
      intro hbegins
      have hinfix := (Text.holds_iff.mp hopening).trans (Text.beginsWith_iff.mp hbegins).isInfix
      exact hholds (Text.holds_iff.mpr hinfix)
    rw [content_prependOnce h, hbegins]
    rfl

theorem holds_completed (h : Text.IsBland opening.toList)
    (hopening : Text.holds "://" opening = true) (w : Wording) :
    Text.holds "://" (completed opening w).content = true := by
  rw [content_completed h hopening]
  split
  · assumption
  · exact Text.holds_append hopening _

theorem toList_content_withoutSpaces (w : Wording) :
    w.withoutSpaces.content.toList = w.content.toList.filter (· ≠ ' ') := by
  cases w with
  | plain s => exact String.toList_ofList
  | trusted s => exact String.toList_ofList

theorem withoutSpaces_eq_self (h : ' ' ∉ w.content.toList) : w.withoutSpaces = w := by
  have hfilter : w.content.toList.filter (· ≠ ' ') = w.content.toList := by
    rw [List.filter_eq_self]
    intro c hc
    have hne : c ≠ ' ' := by
      rintro rfl
      exact h hc
    simpa using hne
  cases w with
  | plain s => exact congrArg plain ((congrArg String.ofList hfilter).trans String.ofList_toList)
  | trusted s =>
    exact congrArg trusted ((congrArg String.ofList hfilter).trans String.ofList_toList)

end Wording

/-! ## Fields -/

namespace Contact

inductive Field
  | email
  | phone
  | website
  | github
  | linkedin
  deriving DecidableEq, Repr

namespace Field

def all : List Field := [email, phone, website, github, linkedin]

def of (c : Contact) : Field → Option Wording
  | email => c.email
  | phone => c.phone
  | website => c.website
  | github => c.github
  | linkedin => c.linkedin

/-- The address that a field makes of its wording. -/
def address : Field → Wording → Wording
  | email => emailAddress
  | phone => phoneAddress
  | website => websiteAddress
  | github => githubAddress
  | linkedin => linkedinAddress

def opening : Field → String
  | email => "mailto:"
  | phone => "tel:"
  | website => "https://"
  | github => "https://github.com/"
  | linkedin => "https://www.linkedin.com/in/"

/-- Whether the field holds the address of a page. -/
def isPage : Field → Bool
  | email | phone => false
  | website | github | linkedin => true

/-- What an address takes of a wording: all of it, but of a phone number not the spaces. -/
def taken : Field → Wording → Wording
  | phone, w => w.withoutSpaces
  | _, w => w

/-- Whether an address of the field begins as it should: that of a page with a scheme, any other
with the opening of the field. -/
def IsComplete (f : Field) (s : String) : Prop :=
  if f.isPage then Text.IsAbsolute s else f.opening.toList <+: s.toList

/-- The text mentions a scheme without beginning with one, in a field that holds a page. -/
def Misleads (f : Field) (s : String) : Prop :=
  f.isPage = true ∧ Text.holds "://" s = true ∧ ¬ Text.IsAbsolute s

variable {f : Field} {s : String} {w : Wording}

theorem isBland_opening (f : Field) : Text.IsBland f.opening.toList := by
  cases f <;> decide

theorem isAbsolute_opening (h : f.isPage = true) : Text.IsAbsolute f.opening := by
  cases f with
  | email | phone => cases h
  | website | github | linkedin => decide +kernel

theorem isComplete_page_iff (h : f.isPage = true) : f.IsComplete s ↔ Text.IsAbsolute s := by
  rw [IsComplete, if_pos h]

theorem isComplete_iff_beginsWith (h : f.isPage = false) :
    f.IsComplete s ↔ Text.beginsWith f.opening s = true := by
  rw [IsComplete, h, if_neg Bool.false_ne_true, Text.beginsWith_iff]

theorem isComplete_opening_append (f : Field) (s : String) : f.IsComplete (f.opening ++ s) := by
  cases hpage : f.isPage with
  | true => exact (isComplete_page_iff hpage).mpr ((isAbsolute_opening hpage).append s)
  | false => exact (isComplete_iff_beginsWith hpage).mpr (Text.beginsWith_append _ s)

/-! ## Addresses -/

theorem address_page (h : f.isPage = true) (w : Wording) :
    f.address w = Wording.completed f.opening (f.taken w) := by
  cases f with
  | email | phone => cases h
  | website | github | linkedin => rfl

theorem address_of_not_page (h : f.isPage = false) (w : Wording) :
    f.address w = Wording.prependOnce (.plain f.opening) (f.taken w) := by
  cases f with
  | email | phone => rfl
  | website | github | linkedin => cases h

/-- An address is what is taken of the wording if that begins as it should or only seems to. -/
theorem content_address_of_passed
    (h : f.IsComplete (f.taken w).content ∨ f.Misleads (f.taken w).content) :
    (f.address w).content = (f.taken w).content := by
  cases hpage : f.isPage with
  | true =>
    have hholds : Text.holds "://" (f.taken w).content = true := by
      rcases h with hcomplete | hmisleads
      · exact ((isComplete_page_iff hpage).mp hcomplete).holds
      · exact hmisleads.2.1
    rw [address_page hpage, Wording.completed_of_holds hholds]
  | false =>
    have hnot : ¬ f.Misleads (f.taken w).content :=
      fun hmisleads => Bool.false_ne_true (hpage.symm.trans hmisleads.1)
    have hbegins := (isComplete_iff_beginsWith hpage).mp (h.resolve_right hnot)
    rw [address_of_not_page hpage, Wording.prependOnce_of_beginsWith hbegins]

theorem content_address_of_opened (h : ¬ f.IsComplete (f.taken w).content)
    (h' : ¬ f.Misleads (f.taken w).content) :
    (f.address w).content = f.opening ++ (f.taken w).content := by
  cases hpage : f.isPage with
  | true =>
    have hnot : ¬ Text.holds "://" (f.taken w).content = true :=
      fun hholds => h' ⟨hpage, hholds, mt (isComplete_page_iff hpage).mpr h⟩
    rw [address_page hpage, Wording.content_completed (isBland_opening f)
      (isAbsolute_opening hpage).holds, if_neg hnot]
  | false =>
    rw [address_of_not_page hpage, Wording.content_prependOnce (isBland_opening f),
      if_neg (mt (isComplete_iff_beginsWith hpage).mpr h)]

/-- An address begins as it should unless what is taken of its field misleads. -/
theorem isComplete_address_iff (f : Field) (w : Wording) :
    f.IsComplete (f.address w).content ↔ ¬ f.Misleads (f.taken w).content := by
  constructor
  · intro hcomplete hmisleads
    rw [content_address_of_passed (.inr hmisleads), isComplete_page_iff hmisleads.1] at hcomplete
    exact hmisleads.2.2 hcomplete
  · intro hmisleads
    by_cases hcomplete : f.IsComplete (f.taken w).content
    · rwa [content_address_of_passed (.inl hcomplete)]
    · rw [content_address_of_opened hcomplete hmisleads]
      exact isComplete_opening_append f _

/-- The spaces of a phone number do not come back with its opening. -/
theorem taken_address (f : Field) (w : Wording) : f.taken (f.address w) = f.address w := by
  cases f with
  | phone =>
    apply Wording.withoutSpaces_eq_self
    change ' ' ∉ (Wording.prependOnce (.plain phone.opening) w.withoutSpaces).content.toList
    have hspace : ' ' ∉ w.withoutSpaces.content.toList := by
      simp [Wording.toList_content_withoutSpaces]
    rw [Wording.content_prependOnce (isBland_opening phone)]
    split
    · exact hspace
    · rw [String.toList_append, List.mem_append, not_or]
      exact ⟨by decide, hspace⟩
  | email | website | github | linkedin => rfl

theorem address_address (f : Field) (w : Wording) : f.address (f.address w) = f.address w := by
  cases hpage : f.isPage with
  | true =>
    rw [address_page hpage (f.address w), taken_address, address_page hpage w]
    exact Wording.completed_of_holds
      (Wording.holds_completed (isBland_opening f) (isAbsolute_opening hpage).holds _)
  | false =>
    rw [address_of_not_page hpage (f.address w), taken_address, address_of_not_page hpage w]
    exact Wording.prependOnce_of_beginsWith (Wording.beginsWith_prependOnce (isBland_opening f) _)

theorem content_address_ne_empty (f : Field) (w : Wording) : (f.address w).content ≠ "" := by
  intro hempty
  cases hpage : f.isPage with
  | true =>
    have hholds := Wording.holds_completed (isBland_opening f) (isAbsolute_opening hpage).holds
      (f.taken w)
    rw [← address_page hpage, hempty] at hholds
    exact absurd hholds (by decide)
  | false =>
    have hbegins := Wording.beginsWith_prependOnce (isBland_opening f) (f.taken w)
    rw [← address_of_not_page hpage, hempty] at hbegins
    cases f with
    | email | phone => exact absurd hbegins (by decide)
    | website | github | linkedin => cases hpage

end Field

/-! ## Links -/

def given (c : Contact) : List (Field × Wording) :=
  Field.all.filterMap fun f => ((f.of c).filter (! ·.content.isEmpty)).map (f, ·)

/-- The contact with every filled field replaced by its address. -/
def addressed (c : Contact) : Contact :=
  let settle (f : Field) : Option Wording :=
    (f.of c).map fun w => if w.content.isEmpty then w else f.address w
  ⟨settle .email, settle .phone, settle .website, settle .github, settle .linkedin⟩

theorem of_addressed (c : Contact) (f : Field) :
    f.of c.addressed = (f.of c).map fun w => if w.content.isEmpty then w else f.address w := by
  cases f <;> rfl

theorem links_eq (c : Contact) : c.links = c.given.map fun x => ⟨x.2, x.1.address x.2⟩ := by
  have hlinks : c.links = Field.all.filterMap fun f => link? f.address (f.of c) := rfl
  rw [hlinks, given, List.map_filterMap]
  congr 1
  funext f
  cases f.of c with
  | none => rfl
  | some w =>
    rw [link?, Option.filter_some]
    cases w.content.isEmpty <;> rfl

theorem given_addressed (c : Contact) :
    c.addressed.given = c.given.map fun x => (x.1, x.1.address x.2) := by
  rw [given, given, List.map_filterMap]
  congr 1
  funext f
  rw [of_addressed]
  cases f.of c with
  | none => rfl
  | some w =>
    have hne : (f.address w).content.isEmpty = false := by
      simpa using f.content_address_ne_empty w
    rw [Option.map_some, Option.filter_some, Option.filter_some]
    cases h : w.content.isEmpty with
    | true => simp [h]
    | false => simp [hne]

/-- The link is that of a field with this wording: labelled with it, and with an address that begins
as it should unless the wording misleads. What is taken of the wording is passed on if it is
complete or misleads, and gets the opening of the field otherwise. -/
structure Field.LinksTo (f : Field) (w : Wording) (l : ContactLink) : Prop where
  label : l.label = w
  complete : f.IsComplete l.address.content ↔ ¬ f.Misleads (f.taken w).content
  passed : f.IsComplete (f.taken w).content ∨ f.Misleads (f.taken w).content →
    l.address.content = (f.taken w).content
  opened : ¬ f.IsComplete (f.taken w).content → ¬ f.Misleads (f.taken w).content →
    l.address.content = f.opening ++ (f.taken w).content

/-- Every link begins as it should unless its field mentions a scheme without beginning with one. -/
theorem links_complete_iff (c : Contact) :
    List.Forall₂ (fun x l => x.1.LinksTo x.2 l) c.given c.links := by
  rw [links_eq, List.forall₂_map_right_iff, List.forall₂_same]
  rintro ⟨f, w⟩ -
  exact
    { label := rfl
      complete := f.isComplete_address_iff w
      passed := Field.content_address_of_passed
      opened := Field.content_address_of_opened }

def asking : Contact :=
  { absent with website := some (.plain "example.com/?next=http://x.org") }

theorem not_forall_isComplete_address : ¬ ∀ c : Contact,
    List.Forall₂ (fun x l => x.1.IsComplete l.address.content) c.given c.links := by
  intro h
  have hasking := h asking
  rw [links_eq, List.forall₂_map_right_iff, List.forall₂_same] at hasking
  have haddress := hasking (.website, .plain "example.com/?next=http://x.org") (by decide +kernel)
  rw [Field.isComplete_address_iff] at haddress
  exact haddress ⟨rfl, by decide +kernel, by decide +kernel⟩

/-- There is one link for each filled field, labelled with its text and in the order of the fields,
and a contact of addresses links to these addresses. -/
theorem links_addressed (c : Contact) : c.links.map ContactLink.label = c.given.map Prod.snd ∧
    c.addressed.links = c.links.map fun l => ⟨l.address, l.address⟩ := by
  rw [links_eq, links_eq, given_addressed, List.map_map, List.map_map, List.map_map]
  refine ⟨rfl, ?_⟩
  apply List.map_congr_left
  rintro ⟨f, w⟩ -
  exact congrArg (ContactLink.mk (f.address w)) (f.address_address w)

end Contact

end ResumePress
