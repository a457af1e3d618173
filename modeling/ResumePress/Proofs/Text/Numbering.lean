import ResumePress.Proofs.Steps
import ResumePress.Proofs.Text.Filling

/-!
# Two schemes for one numbering

Places are numbered by stating how, or by counting. The two schemes keep different things in mind
and find some faults in a different order, but on a template whose places are open, numbered or
named they take the same arguments and fail for faults of one kind. So such a template has one
filling: letters stand for themselves, and every place for one argument.
-/
namespace ResumePress.Text

/-! ## Simple templates -/

/-- The place is open or holds a number or a name, and asks for nothing else. Ornamental digits
alone are no name, since one of the schemes takes them for a number. -/
structure Place.IsSimple (p : Place) : Prop where
  parts : ∀ c ∈ p.name, c ≠ '.' ∧ c ≠ '['
  digits : (∀ c ∈ p.name, isDigitSign c = true) → ∀ c ∈ p.name, (digit? c).isSome = true
  conversion : p.conversion = none
  layout : p.layout = []

theorem Place.isSimple_iff {p : Place} : p.IsSimple ↔
    p.name.all (fun c => c ≠ '.' && c ≠ '[') = true ∧
      (p.name.all isDigitSign = true → p.name.all (fun c => (digit? c).isSome) = true) ∧
        p.conversion = none ∧ p.layout = [] := by
  simp only [List.all_eq_true, Bool.and_eq_true, decide_eq_true_eq]
  exact ⟨fun h => ⟨h.parts, h.digits, h.conversion, h.layout⟩,
    fun ⟨parts, digits, conversion, layout⟩ => ⟨parts, digits, conversion, layout⟩⟩

-- decided on the name, as there is also a decision that runs through all characters
instance (p : Place) : Decidable p.IsSimple :=
  decidable_of_iff _ Place.isSimple_iff.symm

def Piece.IsSimple : Piece → Prop
  | .place p => p.IsSimple
  | _ => True

instance : ∀ x : Piece, Decidable x.IsSimple
  | .place p => inferInstanceAs (Decidable p.IsSimple)
  | .letter _ => .isTrue trivial
  | .broken => .isTrue trivial

/-- The template is made of letters, doubled braces, simple places and unreadable braces. -/
def IsSimpleTemplate (template : String) : Prop :=
  ∀ x ∈ pieces template, x.IsSimple

instance (template : String) : Decidable (IsSimpleTemplate template) :=
  inferInstanceAs (Decidable (∀ x ∈ pieces template, x.IsSimple))

namespace Place.IsSimple

variable {p : Place} (h : p.IsSimple)
include h

theorem head_eq : p.head = p.name := by
  have hall : ∀ c ∈ p.name, (c ≠ '.' && c ≠ '[') = true := by simpa using h.parts
  have happend : (p.name ++ []).takeWhile _ = _ := List.takeWhile_append_of_pos hall
  simpa [head] using happend

theorem eq_next (hname : p.name = []) : p = next := by
  obtain ⟨name, conversion, layout⟩ := p
  have hconversion := h.conversion
  have hlayout := h.layout
  subst hname hconversion hlayout
  rfl

theorem fill_eq {α : Type} (shown : α → Except TemplateFault String) (args : List α) (n : Nat) :
    p.fill shown args n = match args[n]? with
      | none => .error (.noArgument n)
      | some a => shown a := by
  have hparts : p.name.any (fun c => c = '.' || c = '[') = false := by
    simpa [List.any_eq_false] using h.parts
  rw [fill, hparts, h.conversion, h.layout]
  rfl

end Place.IsSimple

/-! ## The schemes side by side -/

/-- What a fault is about: the form of the template, an argument, or its number, name or part. -/
inductive TemplateFault.Kind
  | form
  | argument
  | number
  | name
  | part
  deriving DecidableEq, Repr

def TemplateFault.kind : TemplateFault → TemplateFault.Kind
  | noArgument _ => .number
  | unknownName _ => .name
  | noPart _ => .part
  | unspellable => .argument
  | malformed | mixedNumbering | numberTooLarge | unknownLayout => .form

/-- Two computations with related results, or with faults of one kind. -/
inductive Parallel {β γ : Type} (R : β → γ → Prop) :
    Except TemplateFault β → Except TemplateFault γ → Prop
  | ok {b : β} {c : γ} (h : R b c) : Parallel R (.ok b) (.ok c)
  | error {e f : TemplateFault} (h : e.kind = f.kind) : Parallel R (.error e) (.error f)

namespace Parallel

variable {β β' γ γ' : Type} {R : β → γ → Prop} {S : β' → γ' → Prop}
  {x : Except TemplateFault β} {y : Except TemplateFault γ}

theorem refl (x : Except TemplateFault β) : Parallel Eq x x := by
  cases x with
  | ok b => exact .ok rfl
  | error e => exact .error rfl

theorem bind {f : β → Except TemplateFault β'} {g : γ → Except TemplateFault γ'}
    (h : Parallel R x y) (hfg : ∀ b c, R b c → Parallel S (f b) (g c)) :
    Parallel S (x >>= f) (y >>= g) := by
  cases h with
  | ok h => exact hfg _ _ h
  | error h => exact .error h

theorem map {f : β → β'} {g : γ → γ'} (h : Parallel R x y) (hfg : ∀ b c, R b c → S (f b) (g c)) :
    Parallel S (x.map f) (y.map g) := by
  cases h with
  | ok h => exact .ok (hfg _ _ h)
  | error h => exact .error h

end Parallel

/-- What is stated of the places so far and what is counted of them. -/
inductive SameSoFar : Numbering → Option Nat → Prop
  | unset : SameSoFar .unset (some 0)
  | automatic (n : Nat) : SameSoFar (.automatic (n + 1)) (some (n + 1))
  | manual : SameSoFar .manual none

theorem numberFrom_of_digits {cs : List Char} (h : ∀ c ∈ cs, (digit? c).isSome = true) (n : Nat) :
    numberFrom n cs = .error .numberTooLarge ∨ ∃ k, numberFrom n cs = .ok (some k) := by
  induction cs generalizing n with
  | nil => exact .inr ⟨n, rfl⟩
  | cons c cs ih =>
    obtain ⟨d, hd⟩ := Option.isSome_iff_exists.mp (h c List.mem_cons_self)
    simp only [numberFrom, hd]
    split
    · exact .inl rfl
    · exact ih (fun b hb => h b (List.mem_cons_of_mem c hb)) _

theorem numberFrom_of_not_digit {cs : List Char} {c : Char} (hc : c ∈ cs) (h : digit? c = none)
    (n : Nat) : ∀ k, numberFrom n cs ≠ .ok (some k) := by
  induction cs generalizing n with
  | nil => cases hc
  | cons b cs ih =>
    intro k
    rw [numberFrom]
    cases hb : digit? b with
    | none => nofun
    | some d =>
      have hcs : c ∈ cs := by
        rcases List.mem_cons.mp hc with rfl | hcs
        · rw [h] at hb
          cases hb
        · exact hcs
      dsimp only
      split
      · nofun
      · exact ih hcs _ k

namespace Place

variable {p : Place}

theorem number_of_digits (h : p.IsSimple) (hname : p.name ≠ [])
    (hdigits : ∀ c ∈ p.name, isDigitSign c = true) :
    p.number = .error .numberTooLarge ∨ ∃ k, p.number = .ok k := by
  rw [number, h.head_eq, List.isEmpty_eq_false_iff.mpr hname]
  rcases numberFrom_of_digits (h.digits hdigits) 0 with hlarge | ⟨k, hk⟩
  · exact .inl (by simp [hlarge])
  · exact .inr ⟨k, by simp [hk]⟩

theorem number_of_not_digits (h : p.IsSimple) (hdigits : ¬ ∀ c ∈ p.name, isDigitSign c = true) :
    ∃ e, p.number = .error e := by
  obtain ⟨c, hc, hsign⟩ : ∃ c ∈ p.name, isDigitSign c ≠ true := by simpa using hdigits
  have hnone : digit? c = none := by
    cases hd : digit? c with
    | none => rfl
    | some d => exact absurd (by simp [isDigitSign, hd]) hsign
  have hnumber := numberFrom_of_not_digit hc hnone 0
  rw [number, h.head_eq]
  split
  · exact ⟨_, rfl⟩
  · split
    · exact ⟨_, rfl⟩
    · exact ⟨_, rfl⟩
    · next k hk => exact absurd hk (hnumber k)

/-- A place asks for the same argument under both schemes, or for none. -/
theorem parallel_index (h : p.IsSimple) {numbering : Numbering} {count : Option Nat}
    (hsame : SameSoFar numbering count) :
    Parallel (fun x y => x.1 = y.1 ∧ SameSoFar x.2 y.2) (p.stated numbering) (p.counted count) := by
  by_cases hname : p.name = []
  · rw [h.eq_next hname]
    cases hsame with
    | unset => exact .ok ⟨rfl, .automatic 0⟩
    | automatic n => exact .ok ⟨rfl, .automatic (n + 1)⟩
    | manual => exact .error rfl
  have hempty : p.name.isEmpty = false := List.isEmpty_eq_false_iff.mpr hname
  unfold stated counted
  rw [h.head_eq, hempty, if_neg Bool.false_ne_true, if_neg Bool.false_ne_true]
  by_cases hdigits : ∀ c ∈ p.name, isDigitSign c = true
  · rw [List.all_eq_true.mpr hdigits]
    -- behind an open place one scheme reads the number first and the other does not read it at all
    rcases number_of_digits h hname hdigits with hlarge | ⟨k, hk⟩
    · rw [hlarge]
      cases hsame with
      | unset => exact .error rfl
      | automatic n => exact .error rfl
      | manual => exact .error rfl
    · rw [hk]
      cases hsame with
      | unset => exact .ok ⟨rfl, .manual⟩
      | automatic n => exact .error rfl
      | manual => exact .ok ⟨rfl, .manual⟩
  · obtain ⟨e, he⟩ := number_of_not_digits h hdigits
    have hall : p.name.all isDigitSign = false := by
      simpa [List.all_eq_false] using hdigits
    rw [hall, he]
    exact .error rfl

end Place

section
variable {α : Type} {shown : α → Except TemplateFault String} {text : α → String} {args : List α}

theorem parallel_fillPieces {ps : List Piece} (h : ∀ x ∈ ps, x.IsSimple) {numbering : Numbering}
    {count : Option Nat} (hsame : SameSoFar numbering count) :
    Parallel Eq (fillPieces .stated shown args numbering ps)
      (fillPieces .counted shown args count ps) := by
  induction ps generalizing numbering count with
  | nil => exact .ok rfl
  | cons x ps ih =>
    rw [List.forall_mem_cons] at h
    cases x with
    | letter c =>
      rw [fillPieces, fillPieces]
      exact (ih h.2 hsame).map fun s t hst => congrArg _ hst
    | place p =>
      rw [fillPieces, fillPieces]
      refine (Place.parallel_index (h.1) hsame).bind ?_
      rintro ⟨n, numbering'⟩ ⟨m, count'⟩ ⟨rfl, hsame'⟩
      refine (Parallel.refl (p.fill shown args n)).bind ?_
      rintro s t rfl
      exact (ih h.2 hsame').map fun u v huv => congrArg _ huv
    | broken => exact .error rfl

theorem parallel_fill {template : String} (h : IsSimpleTemplate template) :
    Parallel Eq (fill .stated shown args template) (fill .counted shown args template) :=
  parallel_fillPieces h .unset

/-! ## What a filled template holds -/

/-- The text that pieces make when `n` open places come before them. Letters stand for themselves,
an open place for the next argument and a numbered place for its own. -/
inductive IsFilling (text : α → String) (args : List α) : Nat → List Piece → String → Prop
  | nil (n : Nat) : IsFilling text args n [] ""
  | letter {n : Nat} {ps : List Piece} {s : String} (c : Char) (h : IsFilling text args n ps s) :
    IsFilling text args n (.letter c :: ps) (String.singleton c ++ s)
  | next {n : Nat} {a : α} {ps : List Piece} {s : String} (ha : args[n]? = some a)
    (h : IsFilling text args (n + 1) ps s) :
    IsFilling text args n (.place Place.next :: ps) (text a ++ s)
  | numbered {n k : Nat} {a : α} {p : Place} {ps : List Piece} {s : String} (hk : p.number = .ok k)
    (ha : args[k]? = some a) (h : IsFilling text args n ps s) :
    IsFilling text args n (.place p :: ps) (text a ++ s)

theorem fill_eq_ok {p : Place} (h : p.IsSimple) {n : Nat} {s : String}
    (hs : p.fill shown args n = .ok s) : ∃ a, args[n]? = some a ∧ shown a = .ok s := by
  rw [h.fill_eq] at hs
  split at hs
  · cases hs
  · next a ha => exact ⟨a, ha, hs⟩

/-- An open place takes the next argument, and a numbered place leaves no more to count. -/
theorem Place.counted_eq_ok {p : Place} {count after : Option Nat} {k : Nat}
    (h : p.counted count = .ok (k, after)) :
    (p.name = [] ∧ count = some k ∧ after = some (k + 1)) ∨
      (p.number = .ok k ∧ (after = none ∨ after = count)) := by
  unfold counted at h
  split at h
  · next hname =>
    split at h
    · cases h
      exact .inl ⟨List.isEmpty_iff.mp hname, rfl, rfl⟩
    · cases h
  · split at h
    · split at h
      · cases h
      · obtain ⟨n, hn, hpair⟩ := map_eq_ok.mp h
        cases hpair
        exact .inr ⟨hn, .inl rfl⟩
    · obtain ⟨n, hn, hpair⟩ := map_eq_ok.mp h
      cases hpair
      exact .inr ⟨hn, .inr rfl⟩

/-- With the places counted, a template that can be filled holds nothing but its letters and its
arguments. -/
theorem isFilling_of_fillPieces (hshown : ∀ a ∈ args, shown a = .ok (text a)) {ps : List Piece}
    (h : ∀ x ∈ ps, x.IsSimple) {count : Option Nat} {n : Nat} (hn : ∀ m, count = some m → m = n)
    {t : String} (ht : fillPieces .counted shown args count ps = .ok t) :
    IsFilling text args n ps t := by
  induction ps generalizing count n t with
  | nil =>
    cases ht
    exact .nil n
  | cons x ps ih =>
    rw [List.forall_mem_cons] at h
    cases x with
    | letter c =>
      rw [fillPieces] at ht
      obtain ⟨s, hs, rfl⟩ := map_eq_ok.mp ht
      exact .letter c (ih h.2 hn hs)
    | place p =>
      have hp : p.IsSimple := h.1
      rw [fillPieces] at ht
      obtain ⟨⟨k, after⟩, hindex, ht⟩ := bind_eq_ok.mp ht
      obtain ⟨s, hs, ht⟩ := bind_eq_ok.mp ht
      obtain ⟨rest, hrest, rfl⟩ := map_eq_ok.mp ht
      obtain ⟨a, ha, hs⟩ := fill_eq_ok hp hs
      rw [hshown a (List.mem_of_getElem? ha)] at hs
      obtain rfl := Except.ok.inj hs
      rcases Place.counted_eq_ok hindex with ⟨hname, hcount, rfl⟩ | ⟨hk, rfl | rfl⟩
      · obtain rfl := hn k hcount
        rw [hp.eq_next hname]
        exact .next ha (ih h.2 (fun m hm => (Option.some.inj hm).symm) hrest)
      · exact .numbered hk ha (ih h.2 (by rintro m ⟨⟩) hrest)
      · exact .numbered hk ha (ih h.2 hn hrest)
    | broken => cases ht

theorem isFilling_of_fill (hshown : ∀ a ∈ args, shown a = .ok (text a)) {template : String}
    (h : IsSimpleTemplate template) {t : String}
    (ht : fill .counted shown args template = .ok t) : IsFilling text args 0 (pieces template) t :=
  isFilling_of_fillPieces hshown h (fun _ hm => (Option.some.inj hm).symm) ht

end

end ResumePress.Text
