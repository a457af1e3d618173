import Mathlib.Data.List.Infix
import Mathlib.Tactic.SplitIfs
import ResumePress.Config.Resolve

/-!
# Which texts can be read

The reader of texts keeps a stack of what is open. What it accepts is stated here without the stack:
a reference, a list, a mapping or a text in quotes is closed by itself, with whatever stands inside
of it, and a text is made of single characters and of references that are closed. A text that opens
no reference can always be read, and one that leaves a reference open cannot.
-/
namespace ResumePress.Config

/-! ## Texts that open a reference -/

/-- A reference is opened at the beginning of the characters. -/
def Opens (cs : List Char) : Prop :=
  ['$', '\x7b'] <+: cs

theorem opens_cons_iff {c : Char} {cs : List Char} :
    Opens (c :: cs) ↔ ∃ ds, c = '$' ∧ cs = '\x7b' :: ds := by
  constructor
  · rintro ⟨ds, h⟩
    cases h
    exact ⟨ds, rfl, rfl⟩
  · rintro ⟨ds, rfl, rfl⟩
    exact ⟨ds, rfl⟩

theorem not_opens_cons_iff {c : Char} {cs : List Char} :
    ¬ Opens (c :: cs) ↔ ∀ ds, c = '$' → cs = '\x7b' :: ds → False := by
  rw [opens_cons_iff]
  exact ⟨fun h ds hc hcs => h ⟨ds, hc, hcs⟩, fun h ⟨ds, hc, hcs⟩ => h ds hc hcs⟩

theorem not_opens_of_ne {c : Char} (h : c ≠ '$') (cs : List Char) : ¬ Opens (c :: cs) :=
  not_opens_cons_iff.mpr fun _ hc _ => h hc

theorem opens_append_iff {c : Char} {cs : List Char} (h : cs ≠ []) (ds : List Char) :
    Opens (c :: (cs ++ ds)) ↔ Opens (c :: cs) := by
  obtain ⟨d, cs, rfl⟩ := List.exists_cons_of_ne_nil h
  simp [opens_cons_iff]

theorem refers_iff {s : String} : refers s = true ↔ ['$', '\x7b'] <:+: s.toList := by
  unfold refers
  induction s.toList using refers.go.induct with
  | case1 cs =>
    simp only [refers.go, true_iff]
    exact (List.prefix_append ['$', '\x7b'] cs).isInfix
  | case2 c cs hc ih =>
    have hopens : ¬ ['$', '\x7b'] <+: c :: cs := not_opens_cons_iff.mpr hc
    rw [refers.go, ih, List.infix_cons_iff, or_iff_right hopens]
    exact hc
  | case3 => simp [refers.go]

/-! ## What is closed -/

/-- The characters close what is being read, and it is the given content then. -/
inductive Closes : Frame → List Char → Content → Prop
  | done {f : Frame} {c : Char} {x : Content} (h : f.read c = some (.done x)) : Closes f [c] x
  | going {f f' : Frame} {c : Char} {cs : List Char} {x : Content} (hc : ¬ Opens (c :: cs))
    (h : f.read c = some (.going f')) (hcs : Closes f' cs x) : Closes f (c :: cs) x
  | opened {f g f' : Frame} {c : Char} {cs ds : List Char} {x y : Content}
    (h : f.read c = some (.opened g)) (hcs : Closes g cs y) (hy : f.add? y = some f')
    (hds : Closes f' ds x) : Closes f (c :: (cs ++ ds)) x
  | escaped {f f' : Frame} {cs : List Char} {x : Content} (h : f.pastEscaped? = some f')
    (hcs : Closes f' cs x) : Closes f ('$' :: '\x7b' :: cs) x
  | inner {f f' : Frame} {cs ds : List Char} {r : Reference} {x : Content}
    (hnone : f.pastEscaped? = none) (hcs : Closes (.path .fresh) cs (.reference r))
    (hr : f.add? (.reference r) = some f') (hds : Closes f' ds x) :
    Closes f ('$' :: '\x7b' :: (cs ++ ds)) x

/-- What the frame is closed as is a reference. -/
def Frame.IsReference : Frame → Prop
  | .path _ => True
  | .elements o => ∃ name, o.collection = .arguments name
  | .quoted _ => False

/-- The step is one that the frame can take at the character: only a brace ends a reference, and no
dollar sign opens or ends anything else. -/
def Fits (f : Frame) (c : Char) : Step → Prop
  | .going f' => f.IsReference → f'.IsReference
  | .opened _ => c ≠ '$'
  | .done (.reference _) => c = '\x7d'
  | .done .element => c ≠ '$' ∧ ¬ f.IsReference

namespace OpenPath

variable {o o' : OpenPath} {c : Char} {s : Step}

theorem fits_going {slot : PathSlot} (h : o.going slot = some s) : Fits (.path o') c s := by
  cases h
  exact fun _ => trivial

theorem fits_readEnd (h : o.readEnd c = some s) : Fits (.path o') c s := by
  unfold readEnd at h
  split_ifs at h with hend
  · cases h
    exact hend
  · exact fits_going h
  · cases h
    exact fun _ => ⟨_, rfl⟩

theorem fits_readBehind (h : o.readBehind c = some s) : Fits (.path o') c s := by
  unfold readBehind at h
  split_ifs at h
  · exact fits_going h
  · cases h
    exact fun _ => trivial
  · exact fits_readEnd h

theorem fits_readKey (h : o.readKey c = some s) : Fits (.path o') c s := by
  unfold readKey at h
  split_ifs at h
  exact fits_going h

theorem fits_read (h : o.read c = some s) : Fits (.path o) c s := by
  unfold read at h
  split at h
  case h_1 | h_2 =>
    split_ifs at h
    all_goals first | exact fits_going h | exact fits_readKey h | (cases h; exact fun _ => trivial)
  case h_3 => exact fits_readKey h
  case h_4 =>
    split_ifs at h
    · exact fits_going h
    · exact fits_readBehind h
  case h_5 | h_7 =>
    split_ifs at h
    exact fits_going h
  case h_6 =>
    split_ifs at h
    · exact fits_going h
    · cases h
      exact fun _ => trivial
  case h_8 => exact fits_readBehind h
  case h_9 => exact fits_readEnd h

theorem isSome_addInner? (o : OpenPath) (r r' : Reference) :
    (o.addInner? r).isSome = (o.addInner? r').isSome := by
  unfold addInner?
  split <;> rfl

end OpenPath

namespace OpenElements

variable {o : OpenElements} {c : Char} {s : Step}

theorem fits_going {slot : ElementSlot} {slashed : Bool} (h : o.going slot slashed = some s) :
    Fits (.elements o) c s := by
  cases h
  exact id

theorem fits_done (hc : c = o.closing) : Fits (.elements o) c (.done o.content) := by
  obtain ⟨collection, slot, slashed⟩ := o
  subst hc
  cases collection with
  | arguments name => rfl
  | list => exact ⟨show ']' ≠ '$' by decide, fun ⟨_, h⟩ => nomatch h⟩
  | mapping => exact ⟨show '\x7d' ≠ '$' by decide, fun ⟨_, h⟩ => nomatch h⟩

theorem fits_readEnd (h : o.readEnd c = some s) : Fits (.elements o) c s := by
  unfold readEnd at h
  split_ifs at h with hcomma hend
  · exact fits_going h
  · cases h
    exact fits_done hend

theorem fits_readKey (h : o.readKey c = some s) : Fits (.elements o) c s := by
  unfold readKey at h
  split_ifs at h <;> exact fits_going h

theorem fits_readElement (h : o.readElement c = some s) : Fits (.elements o) c s := by
  unfold readElement at h
  split_ifs at h with hblank hword hquote hlist hmapping
  · exact fits_going h
  · exact fits_going h
  · cases h
    simp only [Fits]
    rintro rfl
    simp at hquote
  · cases h
    simp [Fits, hlist]
  · cases h
    simp [Fits, hmapping]

theorem fits_readPlain (h : o.readPlain c = some s) : Fits (.elements o) c s := by
  unfold readPlain at h
  split at h
  case h_1 =>
    cases hend : o.readEnd c with
    | some s' =>
      rw [hend] at h
      cases h
      exact fits_readEnd hend
    | none =>
      rw [hend] at h
      exact fits_readElement h
  case h_2 =>
    split_ifs at h with hend
    · cases h
      exact fits_done hend
    · exact fits_readKey h
  case h_3 => exact fits_readKey h
  case h_4 =>
    split_ifs at h
    · exact fits_going h
    · exact fits_readKey h
  case h_5 => exact fits_readElement h
  case h_6 | h_7 =>
    split_ifs at h
    · exact fits_going h
    · exact fits_readEnd h

theorem fits_read (h : o.read c = some s) : Fits (.elements o) c s := by
  unfold read at h
  split_ifs at h
  · exact fits_going h
  · exact fits_readPlain h

end OpenElements

namespace OpenQuote

variable {o : OpenQuote} {c : Char} {s : Step}

theorem closing_ne_dollar (o : OpenQuote) : o.closing ≠ '$' := by
  unfold closing
  split <;> decide

theorem fits_read (h : o.read c = some s) : Fits (.quoted o) c s := by
  unfold read at h
  split_ifs at h with hend
  · cases h
    rw [Bool.and_eq_true, decide_eq_true_iff] at hend
    exact ⟨hend.1 ▸ o.closing_ne_dollar, id⟩
  · cases h
    exact False.elim

end OpenQuote

section

variable {f f' g : Frame} {c : Char} {s : Step} {x : Content}

theorem fits_read (h : f.read c = some s) : Fits f c s := by
  cases f with
  | path o => exact o.fits_read h
  | elements o => exact o.fits_read h
  | quoted o => exact o.fits_read h

theorem not_opens_of_done (h : f.read c = some (.done x)) (cs : List Char) : ¬ Opens (c :: cs) := by
  have hfits := fits_read h
  cases x with
  | reference r => exact not_opens_of_ne (hfits ▸ by decide) cs
  | element => exact not_opens_of_ne hfits.1 cs

theorem Frame.IsReference.add? (hf : f.IsReference) (h : f.add? x = some f') :
    f'.IsReference := by
  cases f with
  | path o =>
    cases x with
    | reference r =>
      obtain ⟨o', -, rfl⟩ := Option.map_eq_some_iff.mp h
      trivial
    | element => cases h
  | elements o =>
    cases x with
    | reference r =>
      obtain ⟨o', ho', rfl⟩ := Option.map_eq_some_iff.mp h
      unfold OpenElements.addReference? at ho'
      split at ho' <;> cases ho' <;> exact hf
    | element =>
      obtain ⟨o', ho', rfl⟩ := Option.map_eq_some_iff.mp h
      unfold OpenElements.addElement? at ho'
      split at ho' <;> cases ho' <;> exact hf
  | quoted o => exact hf.elim

theorem Frame.IsReference.pastEscaped? (hf : f.IsReference) : f.pastEscaped? = none := by
  cases f with
  | path o => rfl
  | elements o => rfl
  | quoted o => exact hf.elim

/-- Whether a reference may stand somewhere depends on the place only. -/
theorem isSome_add? (f : Frame) (r r' : Reference) :
    (f.add? (.reference r)).isSome = (f.add? (.reference r')).isSome := by
  cases f with
  | path o => simpa [Frame.add?] using o.isSome_addInner? r r'
  | elements o => rfl
  | quoted o => rfl

end

namespace Closes

variable {f : Frame} {cs : List Char} {x : Content}

theorem ne_nil (h : Closes f cs x) : cs ≠ [] := by
  cases h <;> simp

theorem mem (h : Closes f cs x) {r : Reference} (hx : x = .reference r) : '\x7d' ∈ cs := by
  induction h with
  | done h =>
    subst hx
    simp [show _ = '\x7d' from fits_read h]
  | going _ _ _ ih => exact List.mem_cons_of_mem _ (ih hx)
  | opened _ _ _ _ _ ih => simp [ih hx]
  | escaped _ _ ih => simp [ih hx]
  | inner _ _ _ _ _ ih => simp [ih hx]

theorem exists_reference (h : Closes f cs x) (hf : f.IsReference) : ∃ r, x = .reference r := by
  induction h with
  | @done f c x h =>
    cases x with
    | reference r => exact ⟨r, rfl⟩
    | element => exact absurd hf (fits_read h).2
  | going _ h _ ih => exact ih (fits_read h hf)
  | opened _ _ hy _ _ ih => exact ih (hf.add? hy)
  | escaped h => simp [hf.pastEscaped?] at h
  | inner _ _ hr _ _ ih => exact ih (hf.add? hr)

end Closes

/-! ## The stack -/

/-- After something is closed the rest can be read, with the other frames still open. -/
def GoesOn : List Frame → Content → List Char → Prop
  | [], .reference _, cs => (partsFrom 0 [] cs).isSome = true
  | [], .element, _ => False
  | f :: fs, x, cs => ∃ f', f.add? x = some f' ∧ (partsFrom 0 (f' :: fs) cs).isSome = true

section

variable {slashes : Nat} {f f' : Frame} {fs : List Frame} {c : Char} {cs : List Char} {x : Content}

theorem isSome_partsFrom_escaped (h : f.pastEscaped? = some f') :
    (partsFrom slashes (f :: fs) ('$' :: '\x7b' :: cs)).isSome =
      (partsFrom 0 (f' :: fs) cs).isSome := by
  simp [partsFrom, h]

theorem isSome_partsFrom_opens (h : f.pastEscaped? = none) :
    (partsFrom slashes (f :: fs) ('$' :: '\x7b' :: cs)).isSome = true ↔
      (f.add? (.reference (.path 0 []))).isSome = true ∧
        (partsFrom 0 (.path .fresh :: f :: fs) cs).isSome = true := by
  rw [partsFrom]
  simp only [h]
  split_ifs with hadd <;> simp [hadd]

theorem isSome_partsFrom_cons (hc : ¬ Opens (c :: cs)) :
    (partsFrom slashes (f :: fs) (c :: cs)).isSome = true ↔
      (∃ f', f.read c = some (.going f') ∧ (partsFrom 0 (f' :: fs) cs).isSome = true) ∨
        (∃ g, f.read c = some (.opened g) ∧ (partsFrom 0 (g :: f :: fs) cs).isSome = true) ∨
          ∃ x, f.read c = some (.done x) ∧ GoesOn fs x cs := by
  rw [partsFrom.eq_5 _ _ _ _ _ (not_opens_cons_iff.mp hc)]
  cases f.read c with
  | none => simp
  | some step =>
    cases step with
    | going f' => simp
    | opened g => simp
    | done x =>
      cases fs with
      | nil => cases x <;> simp [GoesOn]
      | cons outer fs =>
        cases h : outer.add? x <;> simp [GoesOn, h]

theorem Closes.isSome_partsFrom (h : Closes f cs x) (slashes : Nat) (fs : List Frame)
    {rest : List Char} (hrest : GoesOn fs x rest) :
    (partsFrom slashes (f :: fs) (cs ++ rest)).isSome = true := by
  induction h generalizing slashes fs rest with
  | done hread =>
    exact (isSome_partsFrom_cons (not_opens_of_done hread rest)).mpr (.inr (.inr ⟨_, hread, hrest⟩))
  | going hc hread hcs ih =>
    exact (isSome_partsFrom_cons (mt (opens_append_iff hcs.ne_nil rest).mp hc)).mpr
      (.inl ⟨_, hread, ih 0 fs hrest⟩)
  | @opened f g f' c cs ds x y hread hcs hadd hds ihcs ihds =>
    rw [List.cons_append, List.append_assoc]
    exact (isSome_partsFrom_cons (not_opens_of_ne (fits_read hread) _)).mpr
      (.inr (.inl ⟨_, hread, ihcs 0 (f :: fs) ⟨f', hadd, ihds 0 fs hrest⟩⟩))
  | escaped h _ ih =>
    rw [List.cons_append, List.cons_append, isSome_partsFrom_escaped h]
    exact ih 0 fs hrest
  | @inner f f' cs ds r x hnone hcs hadd hds ihcs ihds =>
    rw [List.cons_append, List.cons_append, List.append_assoc, isSome_partsFrom_opens hnone]
    refine ⟨?_, ihcs 0 (f :: fs) ⟨f', hadd, ihds 0 fs hrest⟩⟩
    rw [isSome_add? f _ r, hadd]
    rfl

/-- What is left of a text begins with the end of what was opened last. -/
theorem exists_closes (slashes : Nat) (f : Frame) (fs : List Frame) (cs : List Char)
    (h : (partsFrom slashes (f :: fs) cs).isSome = true) :
    ∃ ds x rest, cs = ds ++ rest ∧ Closes f ds x ∧ GoesOn fs x rest := by
  match cs with
  | [] => simp [partsFrom] at h
  | c :: cs =>
    by_cases hc : Opens (c :: cs)
    · obtain ⟨cs, rfl, rfl⟩ := opens_cons_iff.mp hc
      cases hescaped : f.pastEscaped? with
      | some f' =>
        rw [isSome_partsFrom_escaped hescaped] at h
        obtain ⟨ds, x, rest, rfl, hds, hgo⟩ := exists_closes 0 f' fs cs h
        exact ⟨'$' :: '\x7b' :: ds, x, rest, rfl, .escaped hescaped hds, hgo⟩
      | none =>
        -- the inner reference is closed first, and the frame has read it then
        obtain ⟨ds, y, es, rfl, hds, f', hadd, hes⟩ :=
          exists_closes 0 (.path .fresh) (f :: fs) cs ((isSome_partsFrom_opens hescaped).mp h).2
        obtain ⟨r, rfl⟩ := hds.exists_reference trivial
        obtain ⟨ds', x, rest, rfl, hds', hgo⟩ := exists_closes 0 f' fs es hes
        exact ⟨'$' :: '\x7b' :: (ds ++ ds'), x, rest, by simp, .inner hescaped hds hadd hds', hgo⟩
    · rcases (isSome_partsFrom_cons hc).mp h with
        ⟨f', hread, hcs⟩ | ⟨g, hread, hcs⟩ | ⟨x, hread, hgo⟩
      · obtain ⟨ds, x, rest, rfl, hds, hgo⟩ := exists_closes 0 f' fs cs hcs
        have hc' : ¬ Opens (c :: ds) := mt (opens_append_iff hds.ne_nil rest).mpr hc
        exact ⟨c :: ds, x, rest, rfl, .going hc' hread hds, hgo⟩
      · obtain ⟨ds, y, es, rfl, hds, f', hadd, hes⟩ := exists_closes 0 g (f :: fs) cs hcs
        obtain ⟨ds', x, rest, rfl, hds', hgo⟩ := exists_closes 0 f' fs es hes
        exact ⟨c :: (ds ++ ds'), x, rest, by simp, .opened hread hds hadd hds', hgo⟩
      · exact ⟨[c], x, cs, rfl, .done hread, hgo⟩
termination_by cs.length

end

/-! ## Texts -/

/-- The characters can be read behind so many backslashes. An odd number of them takes the meaning
from a reference. -/
inductive ReadableAfter : Nat → List Char → Prop
  | nil {slashes : Nat} : ReadableAfter slashes []
  | slash {slashes : Nat} {cs : List Char} (h : ReadableAfter (slashes + 1) cs) :
    ReadableAfter slashes ('\\' :: cs)
  | char {slashes : Nat} {c : Char} {cs : List Char} (hc : c ≠ '\\') (hopens : ¬ Opens (c :: cs))
    (h : ReadableAfter 0 cs) : ReadableAfter slashes (c :: cs)
  | escaped {slashes : Nat} {cs : List Char} (hodd : slashes % 2 = 1) (h : ReadableAfter 0 cs) :
    ReadableAfter slashes ('$' :: '\x7b' :: cs)
  | reference {slashes : Nat} {cs rest : List Char} {r : Reference} (heven : slashes % 2 = 0)
    (hcs : Closes (.path .fresh) cs (.reference r)) (h : ReadableAfter 0 rest) :
    ReadableAfter slashes ('$' :: '\x7b' :: (cs ++ rest))

theorem readableAfter_of_isSome (slashes : Nat) (cs : List Char)
    (h : (partsFrom slashes [] cs).isSome = true) : ReadableAfter slashes cs := by
  match cs with
  | [] => exact .nil
  | c :: cs =>
    by_cases hc : Opens (c :: cs)
    · obtain ⟨cs, rfl, rfl⟩ := opens_cons_iff.mp hc
      rw [partsFrom] at h
      split_ifs at h with hodd
      · rw [Option.isSome_map] at h
        exact .escaped hodd (readableAfter_of_isSome 0 cs h)
      · rw [Option.isSome_map] at h
        obtain ⟨ds, x, rest, rfl, hds, hrest⟩ := exists_closes 0 (.path .fresh) [] cs h
        obtain ⟨r, rfl⟩ := hds.exists_reference trivial
        exact .reference (by omega) hds (readableAfter_of_isSome 0 rest hrest)
    · rw [partsFrom.eq_4 _ _ _ (not_opens_cons_iff.mp hc)] at h
      split_ifs at h with hslash
      · subst hslash
        exact .slash (readableAfter_of_isSome _ cs h)
      · rw [Option.isSome_map] at h
        exact .char hslash hc (readableAfter_of_isSome 0 cs h)
termination_by cs.length

theorem ReadableAfter.isSome {slashes : Nat} {cs : List Char} (h : ReadableAfter slashes cs) :
    (partsFrom slashes [] cs).isSome = true := by
  induction h with
  | nil => simp [partsFrom]
  | slash h ih =>
    rw [partsFrom.eq_4 _ _ _ (fun _ hc => absurd hc (by decide)), if_pos rfl]
    exact ih
  | char hc hopens h ih =>
    rw [partsFrom.eq_4 _ _ _ (not_opens_cons_iff.mp hopens), if_neg hc, Option.isSome_map]
    exact ih
  | escaped hodd h ih =>
    rw [partsFrom, if_pos hodd, Option.isSome_map]
    exact ih
  | reference heven hcs h ih =>
    rw [partsFrom, if_neg (by omega), Option.isSome_map]
    exact hcs.isSome_partsFrom 0 [] ih

/-- The reader with the stack reads the texts in which every reference is closed, or a backslash
takes its meaning. -/
theorem isSome_parts?_iff {s : String} :
    (parts? s).isSome = true ↔ ReadableAfter 0 s.toList :=
  ⟨readableAfter_of_isSome 0 s.toList, ReadableAfter.isSome⟩

def IsReadable (s : String) : Prop :=
  areCommonFrom none s.toList = true ∨ ReadableAfter 0 s.toList

theorem isAccepted_iff {s : String} : isAccepted s = true ↔ IsReadable s := by
  rw [isAccepted, Bool.or_eq_true, isSome_parts?_iff]
  rfl

theorem readableAfter_of_unopened {cs : List Char} (h : ¬ ['$', '\x7b'] <:+: cs)
    (slashes : Nat) : ReadableAfter slashes cs := by
  induction cs generalizing slashes with
  | nil => exact .nil
  | cons c cs ih =>
    rw [List.infix_cons_iff, not_or] at h
    by_cases hc : c = '\\'
    · subst hc
      exact .slash (ih h.2 _)
    · exact .char hc h.1 (ih h.2 0)

/-- A text that refers to nothing is readable, whatever else is in it. -/
theorem isReadable_of_not_refers {s : String} (h : refers s = false) : IsReadable s := by
  refine .inr (readableAfter_of_unopened ?_ 0)
  rw [← refers_iff, h]
  exact Bool.false_ne_true

theorem ReadableAfter.not_infix {slashes : Nat} {cs : List Char} (h : ReadableAfter slashes cs)
    (hnone : slashes = 0) (hslash : '\\' ∉ cs) (hbrace : '\x7d' ∉ cs) :
    ¬ ['$', '\x7b'] <:+: cs := by
  induction h with
  | nil => simp
  | slash => simp at hslash
  | char hc hopens h ih =>
    rw [List.mem_cons, not_or] at hslash hbrace
    rw [List.infix_cons_iff, not_or]
    exact ⟨hopens, ih rfl hslash.2 hbrace.2⟩
  | escaped hodd => omega
  | reference heven hcs =>
    have hend := hcs.mem rfl
    simp [hend] at hbrace

theorem areCommonFrom_inside {cs : List Char} (hbrace : '\x7d' ∉ cs) (read : List Char) :
    areCommonFrom (some read) cs = false := by
  induction cs generalizing read with
  | nil => rfl
  | cons c cs ih =>
    rw [List.mem_cons, not_or] at hbrace
    by_cases hc : Opens (c :: cs)
    · obtain ⟨ds, rfl, rfl⟩ := opens_cons_iff.mp hc
      rfl
    · rw [areCommonFrom.eq_5 _ _ _ (not_opens_cons_iff.mp hc)]
      simp only [if_neg (Ne.symm hbrace.1)]
      exact ih hbrace.2 _

theorem not_infix_of_areCommonFrom {cs : List Char} (h : areCommonFrom none cs = true)
    (hbrace : '\x7d' ∉ cs) : ¬ ['$', '\x7b'] <:+: cs := by
  induction cs with
  | nil => simp
  | cons c cs ih =>
    rw [List.mem_cons, not_or] at hbrace
    rw [List.infix_cons_iff, not_or]
    by_cases hc : Opens (c :: cs)
    · obtain ⟨ds, rfl, rfl⟩ := opens_cons_iff.mp hc
      rw [areCommonFrom, areCommonFrom_inside (by simpa using hbrace.2)] at h
      cases h
    · rw [areCommonFrom.eq_4 _ _ (not_opens_cons_iff.mp hc)] at h
      exact ⟨hc, ih h hbrace.2⟩

/-- Where nothing can close a reference or take its meaning, the texts without references are the
readable ones. -/
theorem isReadable_iff_of_not_mem {s : String} (hslash : '\\' ∉ s.toList)
    (hbrace : '\x7d' ∉ s.toList) : IsReadable s ↔ refers s = false := by
  refine ⟨fun h => ?_, isReadable_of_not_refers⟩
  rw [← Bool.not_eq_true, refers_iff]
  rcases h with h | h
  · exact not_infix_of_areCommonFrom h hbrace
  · exact h.not_infix rfl hslash hbrace

end ResumePress.Config
