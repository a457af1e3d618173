import Mathlib.Tactic.SplitIfs
import ResumePress.Files.Store
import ResumePress.Proofs.Steps

/-!
# What changes to files leave alone

A text is written to one spot, and making directories adds directories where nothing was. Neither
takes a directory away, so a path that leads somewhere goes on leading there.
-/
namespace ResumePress.Store

variable {s s' s'' : Store} {spot x : Spot} {p : Path}

/-! ## A single entry -/

theorem at?_of_isFixed (h : isFixed x = true) (s : Store) : s.at? x = some .directory := by
  rw [at?, if_pos h]

theorem isFixed_of_at?_ne (h : s.at? x ≠ some .directory) : isFixed x = false := by
  apply Bool.of_not_eq_true
  intro hfixed
  exact h (at?_of_isFixed hfixed s)

theorem lookup_filter_ne {entries : List (Spot × Entry)} (h : x ≠ spot) :
    (entries.filter (fun f => f.1 != spot)).lookup x = entries.lookup x := by
  induction entries with
  | nil => rfl
  | cons f entries ih =>
    obtain ⟨y, e⟩ := f
    by_cases hy : y = spot
    · have hx : (x == spot) = false := beq_eq_false_iff_ne.mpr h
      subst hy
      simp [List.lookup_cons, hx, ih]
    · simp [hy, List.lookup_cons, ih]

theorem at?_set_self (h : isFixed spot = false) (s : Store) (e : Entry) :
    (s.set spot e).at? spot = some e := by
  simp [at?, set, h]

theorem at?_set_of_ne (h : x ≠ spot) (s : Store) (e : Entry) :
    (s.set spot e).at? x = s.at? x := by
  have hx : (x == spot) = false := beq_eq_false_iff_ne.mpr h
  simp [at?, set, List.lookup_cons, hx, lookup_filter_ne h]

theorem set_set (s : Store) (spot : Spot) (e f : Entry) :
    (s.set spot e).set spot f = s.set spot f := by
  simp [set, List.filter_filter]

/-! ## Where paths lead -/

def KeepsDirectories (s s' : Store) : Prop :=
  ∀ x, s.at? x = some .directory → s'.at? x = some .directory

/-- Only directories lead further, so a path leads where it led as long as they are there. -/
theorem KeepsDirectories.walkFrom_eq (h : KeepsDirectories s s') {names : List String}
    (hw : s.walkFrom spot names = .ok x) : s'.walkFrom spot names = .ok x := by
  induction names generalizing spot with
  | nil => exact hw
  | cons name names ih =>
    rw [walkFrom] at hw
    cases hat : s.at? spot with
    | none => simp [hat] at hw
    | some e =>
      cases e with
      | directory =>
        simp only [hat] at hw
        rw [walkFrom, h spot hat]
        exact ih hw
      | text t => simp [hat] at hw
      | binary => simp [hat] at hw

theorem KeepsDirectories.walk_eq (h : KeepsDirectories s s') (hw : s.walk p = .ok x) :
    s'.walk p = .ok x :=
  h.walkFrom_eq hw

theorem walkFrom_append (s : Store) (spot : Spot) (names more : List String) :
    s.walkFrom spot (names ++ more) = s.walkFrom spot names >>= fun y => s.walkFrom y more := by
  induction names generalizing spot with
  | nil => rfl
  | cons name names ih =>
    rw [List.cons_append, walkFrom, walkFrom]
    cases s.at? spot with
    | none => rfl
    | some e =>
      cases e with
      | directory => exact ih _
      | text t => rfl
      | binary => rfl

theorem keepsDirectories_set (h : s.at? spot ≠ some .directory) (e : Entry) :
    KeepsDirectories s (s.set spot e) := by
  intro x hx
  have hne : x ≠ spot := by
    rintro rfl
    exact h hx
  rw [at?_set_of_ne hne, hx]

/-! ## Names in one directory -/

theorem walk_of_parent (s : Store) {name : String} (hname : p.parts.getLast? = some name) :
    s.walk p = s.walk p.parent >>= fun d => s.walkFrom d [name] := by
  obtain ⟨names, hnames⟩ := List.getLast?_eq_some_iff.mp hname
  have hparent : p.parent.parts = names := by
    rw [Path.parent, hnames, List.dropLast_concat]
  rw [walk, walk, hparent, hnames, walkFrom_append]
  rfl

/-- A path with a name leads one step on from the directory around it. -/
theorem walk_eq_ok {name : String} (hname : p.parts.getLast? = some name)
    (hw : s.walk p = .ok x) : ∃ d, s.walk p.parent = .ok d ∧ s.at? d = some .directory ∧
      x = if name = ".." then above d else d ++ [name] := by
  rw [walk_of_parent s hname] at hw
  obtain ⟨d, hd, hstep⟩ := bind_eq_ok.mp hw
  rw [walkFrom] at hstep
  split at hstep
  · cases hstep
  · next hdir =>
    cases hstep
    exact ⟨d, hd, hdir, rfl⟩
  · cases hstep

theorem above_ne_append (spot : Spot) {name : String} (h : name ≠ "..") :
    above spot ≠ spot ++ [name] := by
  intro he
  unfold above at he
  split_ifs at he with hroot hup
  · simpa using congrArg List.length he
  · have hmem : name ∈ ".." :: spot := by simp [he]
    rcases List.mem_cons.mp hmem with rfl | hspot
    · exact h rfl
    · exact h (beq_iff_eq.mp (List.all_eq_true.mp hup name hspot))
  · have hlen := congrArg List.length he
    simp only [List.length_dropLast, List.length_append, List.length_singleton] at hlen
    omega

theorem walk_sibling_ne {name other : String} (hname : p.parts.getLast? = some name)
    (hne : other ≠ name) (hother : other ≠ "..") (hw : s.walk p = .ok x) :
    s.walk { p with parts := p.parts.dropLast ++ [other] } ≠ .ok x := by
  intro hw'
  have hparent : Path.parent { p with parts := p.parts.dropLast ++ [other] } = p.parent := by
    rw [Path.parent, List.dropLast_concat, Path.parent]
  obtain ⟨d, hd, -, hx⟩ := walk_eq_ok hname hw
  have hlast : (p.parts.dropLast ++ [other]).getLast? = some other := List.getLast?_concat
  obtain ⟨d', hd', -, hx'⟩ := walk_eq_ok hlast hw'
  rw [hparent, hd] at hd'
  cases hd'
  rw [if_neg hother] at hx'
  rw [hx'] at hx
  split_ifs at hx
  · exact above_ne_append d hother hx.symm
  · exact hne (List.cons.inj (List.append_cancel_left hx)).1

/-! ## Files -/

def file? (s : Store) (x : Spot) : Option Entry :=
  match s.at? x with
  | some .directory => none
  | e => e

theorem file?_eq_of_at?_eq (h : s'.at? x = s.at? x) : s'.file? x = s.file? x := by
  rw [file?, file?, h]

/-! ## Making directories -/

/-- Directories may be new where nothing was; all else is as it was. -/
def AddsDirectories (s s' : Store) : Prop :=
  ∀ x, s'.at? x = s.at? x ∨ (s.at? x = none ∧ s'.at? x = some .directory)

theorem AddsDirectories.refl (s : Store) : AddsDirectories s s :=
  fun _ => .inl rfl

theorem AddsDirectories.trans (h : AddsDirectories s s') (h' : AddsDirectories s' s'') :
    AddsDirectories s s'' := by
  intro x
  rcases h' x with hx' | ⟨hnone, hdir⟩
  · rw [hx']
    exact h x
  · rcases h x with hx | ⟨_, hmade⟩
    · exact .inr ⟨hx ▸ hnone, hdir⟩
    · rw [hmade] at hnone
      cases hnone

theorem AddsDirectories.file?_eq (h : AddsDirectories s s') (x : Spot) :
    s'.file? x = s.file? x := by
  rcases h x with heq | ⟨hnone, hdir⟩
  · exact file?_eq_of_at?_eq heq
  · rw [file?, file?, hnone, hdir]

/-- One directory: it is there, or it is made where nothing was. -/
theorem addsDirectories_of_makeDir (h : s.makeDir p = .ok s') : AddsDirectories s s' := by
  unfold makeDir at h
  cases hw : s.walk p with
  | error e => simp [hw] at h
  | ok spot =>
    simp only [hw] at h
    split at h
    · cases h
      exact .refl s
    · cases h
    · next hnone =>
      split at h
      · cases h
        have hfixed : isFixed spot = false := isFixed_of_at?_ne (by rw [hnone]; simp)
        intro x
        by_cases hx : x = spot
        · subst hx
          exact .inr ⟨hnone, at?_set_self hfixed s _⟩
        · exact .inl (at?_set_of_ne hx s _)
      · cases h
      · cases h

theorem addsDirectories_left {r : Except FileFault Store}
    (h : ∀ after, r = .ok after → AddsDirectories s after) : AddsDirectories s (s.left r).1 := by
  cases r with
  | error e => exact .refl s
  | ok after => exact h after rfl

/-- Directories around a directory are made before it, and stay even if it is refused. -/
theorem addsDirectories_makeDirsFrom (s : Store) (rooted : Bool) (names : List String) :
    AddsDirectories s (s.makeDirsFrom rooted names).1 := by
  induction names with
  | nil => exact addsDirectories_left fun _ => addsDirectories_of_makeDir
  | cons name outer ih =>
    rw [makeDirsFrom]
    split
    -- nothing is around the directory, so what is around it is made first
    · split
      · next around e houter =>
        rw [houter] at ih
        exact ih
      · next around houter =>
        rw [houter] at ih
        exact ih.trans (addsDirectories_left fun _ => addsDirectories_of_makeDir)
    · exact addsDirectories_left fun _ => addsDirectories_of_makeDir

theorem addsDirectories_leaveDirs (s : Store) (p : Path) : AddsDirectories s (s.leaveDirs p).1 :=
  addsDirectories_makeDirsFrom s p.rooted p.parts.reverse

theorem addsDirectories_of_makeDirs (h : s.makeDirs p = .ok s') : AddsDirectories s s' := by
  obtain ⟨_, -, rfl⟩ := map_eq_ok.mp h
  exact addsDirectories_leaveDirs s p

theorem AddsDirectories.keepsDirectories (h : AddsDirectories s s') : KeepsDirectories s s' := by
  intro x hx
  rcases h x with heq | ⟨-, hdir⟩
  · rw [heq, hx]
  · exact hdir

theorem leaveDirs_of_directory (hw : s.walk p = .ok spot) (hat : s.at? spot = some .directory) :
    s.leaveDirs p = (s, .ok ()) := by
  have hmake : s.makeDir p = .ok s := by simp [makeDir, hw, hat]
  obtain ⟨rooted, parts⟩ := p
  rw [leaveDirs]
  -- the directory itself is tried before those around it
  cases hrev : parts.reverse with
  | nil =>
    rw [List.reverse_eq_nil_iff.mp hrev] at hmake
    rw [makeDirsFrom, hmake, left]
  | cons name outer =>
    rw [← List.reverse_reverse parts, hrev] at hmake
    simp only [makeDirsFrom, hmake, left]

/-! ## Writing a text -/

/-- A text goes to the spot that its path leads to, and to no other. -/
theorem write_eq_ok {t : String} (h : s.write p t = .ok s') : ∃ spot, s.walk p = .ok spot ∧
    s.at? spot ≠ some .directory ∧ s.at? (above spot) = some .directory ∧
      s' = s.set spot (.text t) := by
  unfold write put at h
  cases hw : s.walk p with
  | error e => simp [hw] at h
  | ok spot =>
    simp only [hw] at h
    split_ifs at h with hdir habove
    cases h
    exact ⟨spot, rfl, hdir, habove, rfl⟩

theorem keepsDirectories_write {t : String} (h : s.write p t = .ok s') :
    KeepsDirectories s s' := by
  obtain ⟨spot, -, hdir, -, rfl⟩ := write_eq_ok h
  exact keepsDirectories_set hdir _

/-- Behind the path stands what was written, and every other spot is as it was. -/
theorem write_spec {t : String} (h : s.write p t = .ok s') : s'.read p = .ok t ∧
    ∃ spot, s'.walk p = .ok spot ∧ ∀ x, x ≠ spot → s'.at? x = s.at? x := by
  have hkeeps := keepsDirectories_write h
  obtain ⟨spot, hw, hdir, -, rfl⟩ := write_eq_ok h
  have hw' := hkeeps.walk_eq hw
  have hat := at?_set_self (isFixed_of_at?_ne hdir) s (.text t)
  refine ⟨?_, spot, hw', fun x hx => at?_set_of_ne hx s _⟩
  simp [read, hw', hat]

theorem write_of_write {t : String} (h : s.write p t = .ok s') : s'.write p t = .ok s' := by
  have hkeeps := keepsDirectories_write h
  obtain ⟨spot, hw, hdir, habove, rfl⟩ := write_eq_ok h
  have hat := at?_set_self (isFixed_of_at?_ne hdir) s (.text t)
  simp [write, put, hkeeps.walk_eq hw, hat, hkeeps _ habove, set_set]

theorem read_eq_ok {t : String} (h : s.read p = .ok t) :
    ∃ spot, s.walk p = .ok spot ∧ s.at? spot = some (.text t) := by
  unfold read at h
  cases hw : s.walk p with
  | error e => simp [hw] at h
  | ok spot =>
    simp only [hw] at h
    split at h
    · cases h
    · cases h
    · cases h
    · next hat =>
      cases h
      exact ⟨spot, rfl, hat⟩

/-- New directories stand before no text. -/
theorem AddsDirectories.read_eq {t : String} (h : AddsDirectories s s') (hread : s.read p = .ok t) :
    s'.read p = .ok t := by
  obtain ⟨x, hw, hat⟩ := read_eq_ok hread
  have hat' : s'.at? x = some (.text t) := by
    rcases h x with heq | ⟨hnone, -⟩
    · rw [heq, hat]
    · rw [hat] at hnone
      cases hnone
  simp [read, h.keepsDirectories.walk_eq hw, hat']

/-- Elsewhere there is what was there before a text was written. -/
theorem read_of_write {q : Path} {t u : String} (h : s.write p t = .ok s')
    (hread : s.read q = .ok u) (hne : ∀ x, s.walk q = .ok x → s.walk p ≠ .ok x) :
    s'.read q = .ok u := by
  have hkeeps := keepsDirectories_write h
  obtain ⟨spot, hw, -, -, rfl⟩ := write_eq_ok h
  obtain ⟨x, hq, hat⟩ := read_eq_ok hread
  have hx : x ≠ spot := by
    rintro rfl
    exact hne x hq hw
  simp [read, hkeeps.walk_eq hq, at?_set_of_ne hx, hat]

end ResumePress.Store
