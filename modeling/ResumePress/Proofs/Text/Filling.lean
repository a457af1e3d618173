import ResumePress.Text.Template

/-!
# Filling templates

A template is filled from left to right. Text without braces stands for itself, and an empty pair of
braces for the next argument, whatever comes after them. So the parts of a template can be looked at
one by one.
-/
namespace ResumePress.Text

def IsBraceless (cs : List Char) : Prop :=
  ∀ c ∈ cs, c ≠ '\x7b' ∧ c ≠ '\x7d'

instance (cs : List Char) : Decidable (IsBraceless cs) :=
  decidable_of_iff (cs.all fun c => c != '\x7b' && c != '\x7d') (by simp [IsBraceless])

theorem piecesFrom_append {cs : List Char} (h : IsBraceless cs) (rest : List Char) :
    piecesFrom .outside (cs ++ rest) = cs.map .letter ++ piecesFrom .outside rest := by
  induction cs with
  | nil => rfl
  | cons c cs ih =>
    obtain ⟨hopen, hclose⟩ := h c List.mem_cons_self
    rw [List.cons_append, List.map_cons, List.cons_append,
      ← ih fun d hd => h d (List.mem_cons_of_mem c hd)]
    rw [piecesFrom]
    · rw [if_neg hclose, if_neg hopen]
    · rintro _ rfl
      exact absurd rfl hopen
    · rintro _ rfl
      exact absurd rfl hclose

def Place.next : Place := ⟨[], none, []⟩

theorem piecesFrom_place (rest : List Char) :
    piecesFrom .outside ('\x7b' :: '\x7d' :: rest) =
      .place Place.next :: piecesFrom .outside rest := by
  simp [piecesFrom, Place.next]

/-- The open place that comes next has number `n`. -/
def Numbering.IsAt (n : Nat) : Numbering → Prop
  | .unset => n = 0
  | .automatic m => n = m
  | .manual => False

/-- Open places take the arguments one after the other, where `IsAt` tells which comes next. -/
structure Scheme.Counts {σ : Type} (scheme : Scheme σ) (IsAt : Nat → σ → Prop) : Prop where
  start : IsAt 0 scheme.start
  next : ∀ {n : Nat} {state : σ}, IsAt n state →
    ∃ after, scheme.index Place.next state = .ok (n, after) ∧ IsAt (n + 1) after

theorem Scheme.counts_stated : stated.Counts Numbering.IsAt where
  start := rfl
  next {n} numbering h := by
    cases numbering with
    | unset =>
      cases h
      exact ⟨.automatic 1, rfl, rfl⟩
    | automatic m =>
      cases h
      exact ⟨.automatic (n + 1), rfl, rfl⟩
    | manual => exact h.elim

theorem Scheme.counts_counted : counted.Counts fun n count => count = some n where
  start := rfl
  next {n} count h := by
    cases h
    exact ⟨some (n + 1), rfl, rfl⟩

section
variable {α σ : Type} {scheme : Scheme σ} {shown : α → Except TemplateFault String} {args : List α}

/-- Arguments can be changed before they are put into their places, or on the way there. -/
theorem fillPieces_map {β : Type} (f : β → α) (bs : List β) (state : σ) (ps : List Piece) :
    fillPieces scheme shown (bs.map f) state ps = fillPieces scheme (shown ∘ f) bs state ps := by
  have hplace : ∀ (p : Place) (n : Nat), p.fill shown (bs.map f) n = p.fill (shown ∘ f) bs n := by
    intro p n
    rw [Place.fill, Place.fill, List.getElem?_map]
    cases bs[n]? <;> rfl
  induction ps generalizing state with
  | nil => rfl
  | cons x ps ih =>
    cases x with
    | letter c => rw [fillPieces, fillPieces, ih]
    | place p =>
      rw [fillPieces, fillPieces]
      simp only [hplace, ih]
    | broken => rfl

theorem fillPieces_congr {shown' : α → Except TemplateFault String}
    (h : ∀ a ∈ args, shown' a = shown a) (state : σ) (ps : List Piece) :
    fillPieces scheme shown' args state ps = fillPieces scheme shown args state ps := by
  have hplace : ∀ (p : Place) (n : Nat), p.fill shown' args n = p.fill shown args n := by
    intro p n
    rw [Place.fill, Place.fill]
    cases ha : args[n]? with
    | none => rfl
    | some a =>
      dsimp only
      rw [h a (List.mem_of_getElem? ha)]
  induction ps generalizing state with
  | nil => rfl
  | cons x ps ih =>
    cases x with
    | letter c => rw [fillPieces, fillPieces, ih]
    | place p =>
      rw [fillPieces, fillPieces]
      simp only [hplace, ih]
    | broken => rfl

theorem fillPieces_letters (state : σ) (cs : List Char) (ps : List Piece) :
    fillPieces scheme shown args state (cs.map .letter ++ ps) =
      (fillPieces scheme shown args state ps).map (String.ofList cs ++ ·) := by
  induction cs with
  | nil => cases h : fillPieces scheme shown args state ps <;> simp [Except.map, h]
  | cons c cs ih =>
    rw [List.map_cons, List.cons_append, fillPieces, ih]
    cases fillPieces scheme shown args state ps with
    | error e => rfl
    | ok rest => simp [Except.map, ← String.append_assoc]

theorem fill_next {n : Nat} {a : α} (ha : args[n]? = some a) :
    Place.fill shown args Place.next n = shown a := by
  simp [Place.fill, Place.next, ha]

/-- From argument `n` on, the part of a template is filled to `s`, and argument `m` comes next. -/
def Fills (scheme : Scheme σ) (IsAt : Nat → σ → Prop) (shown : α → Except TemplateFault String)
    (args : List α) (n : Nat) (part s : String) (m : Nat) : Prop :=
  ∀ state, IsAt n state → ∃ next, IsAt m next ∧ ∀ rest,
    fillPieces scheme shown args state (piecesFrom .outside (part.toList ++ rest)) =
      (fillPieces scheme shown args next (piecesFrom .outside rest)).map (s ++ ·)

namespace Fills

variable {IsAt : Nat → σ → Prop} {n m k : Nat} {part part' s s' : String}

theorem text (t : String) (h : IsBraceless t.toList) (n : Nat) :
    Fills scheme IsAt shown args n t t n := by
  intro state hn
  refine ⟨state, hn, fun rest => ?_⟩
  rw [piecesFrom_append h, fillPieces_letters, String.ofList_toList]

theorem append (h : Fills scheme IsAt shown args n part s m)
    (h' : Fills scheme IsAt shown args m part' s' k) :
    Fills scheme IsAt shown args n (part ++ part') (s ++ s') k := by
  intro state hn
  obtain ⟨next, hm, hpart⟩ := h state hn
  obtain ⟨last, hk, hpart'⟩ := h' next hm
  refine ⟨last, hk, fun rest => ?_⟩
  rw [String.toList_append, List.append_assoc, hpart, hpart']
  cases fillPieces scheme shown args last (piecesFrom .outside rest) with
  | error e => rfl
  | ok t => simp [Except.map, String.append_assoc]

theorem place (hcounts : scheme.Counts IsAt) {a : α} (ha : args[n]? = some a)
    (hs : shown a = .ok s) : Fills scheme IsAt shown args n "\x7b\x7d" s (n + 1) := by
  intro state hn
  obtain ⟨next, hindex, hnext⟩ := hcounts.next hn
  refine ⟨next, hnext, fun rest => ?_⟩
  have htemplate : "\x7b\x7d".toList ++ rest = '\x7b' :: '\x7d' :: rest := rfl
  rw [htemplate, piecesFrom_place, fillPieces, hindex]
  change (Place.fill shown args Place.next n >>= fun s => _) = _
  rw [fill_next ha, hs]
  rfl

theorem slot (hcounts : scheme.Counts IsAt) (t : String) (h : IsBraceless t.toList) {a : α}
    (ha : args[n]? = some a) (hs : shown a = .ok s) :
    Fills scheme IsAt shown args n (t ++ "\x7b\x7d") (t ++ s) (n + 1) :=
  (text t h n).append (place hcounts ha hs)

theorem fill_eq (hcounts : scheme.Counts IsAt) (h : Fills scheme IsAt shown args 0 part s m) :
    fill scheme shown args part = .ok s := by
  obtain ⟨next, -, hpart⟩ := h scheme.start hcounts.start
  have hend := hpart []
  rw [List.append_nil] at hend
  rw [fill, pieces, hend]
  simp [piecesFrom, fillPieces, Except.map]

end Fills

end

end ResumePress.Text
