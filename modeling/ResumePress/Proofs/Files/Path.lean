import Mathlib.Data.String.Basic
import ResumePress.Files.Path

/-!
# Names and their suffixes

A name without a slash is a path of its own. The page of a resume takes its name from the resume,
with another suffix. A resume that has the suffix of pages already gets its own name back, and no
other resume does.
-/
namespace ResumePress.Path

variable {p q : Path}

/-! ## Single names -/

open String in
/-- A text without the separator is not cut, wherever the cutting stands in it. -/
theorem splitOnAux_of_notMem {m r : List Char} (h : '/' ∉ r) :
    splitOnAux (ofList (m ++ r)) "/" 0 ⟨utf8Len m⟩ 0 [] = [ofList (m ++ r)] := by
  induction r generalizing m with
  | nil =>
    have hend : (⟨utf8Len m⟩ : Pos.Raw).atEnd (ofList (m ++ [])) = true :=
      (atEnd_of_valid m []).mpr rfl
    have hall := extract_of_valid [] m []
    rw [splitOnAux, if_pos hend]
    simpa using hall
  | cons c r ih =>
    rw [List.mem_cons, not_or] at h
    have hend : ¬ (⟨utf8Len m⟩ : Pos.Raw).atEnd (ofList (m ++ c :: r)) = true := by
      rw [atEnd_of_valid]
      exact List.cons_ne_nil c r
    have hget : Pos.Raw.get (ofList (m ++ c :: r)) ⟨utf8Len m⟩ = c := get_of_valid m (c :: r)
    have hsep : Pos.Raw.get "/" 0 = '/' := rfl
    have hne : ¬ (c == '/') = true := by simpa using Ne.symm h.1
    have hnext : Pos.Raw.next (ofList (m ++ c :: r)) ((⟨utf8Len m⟩ : Pos.Raw).unoffsetBy 0) =
        ⟨utf8Len (m ++ [c])⟩ := by
      simpa [Pos.Raw.unoffsetBy] using next_of_valid m c r
    have hrest := ih (m := m ++ [c]) h.2
    rw [List.append_assoc, List.singleton_append] at hrest
    rw [splitOnAux, if_neg hend, hget, hsep, if_neg hne, hnext, hrest]

theorem ofString_name {name : String} (hslash : '/' ∉ name.toList) (hempty : name ≠ "")
    (hdot : name ≠ ".") : ofString name = ⟨false, [name]⟩ := by
  have hsplit : name.splitOn "/" = [name] := by
    have h := splitOnAux_of_notMem (m := []) hslash
    rw [List.nil_append, String.ofList_toList] at h
    exact h
  have hrooted : (name.toList.head? == some '/') = false := by
    cases hcs : name.toList with
    | nil => rfl
    | cons c cs =>
      rw [hcs, List.mem_cons, not_or] at hslash
      simpa using Ne.symm hslash.1
  simp [ofString, hsplit, hrooted, hempty, hdot]

/-! ## Suffixes -/

/-- A suffix is a dot and what follows it, where something stands before the dot and after it. -/
theorem stem_append {base ext : List Char} (hbase : base ≠ []) (hext : ext ≠ [])
    (hdot : '.' ∉ ext) : stem (base ++ '.' :: ext) = base := by
  -- a name is read from its end, so the suffix comes first
  have hreverse : (base ++ '.' :: ext).reverse = ext.reverse ++ '.' :: base.reverse := by simp
  have hall : ∀ c ∈ ext.reverse, decide (c ≠ '.') = true := by
    intro c hc
    rw [decide_eq_true_iff]
    rintro rfl
    exact hdot (List.mem_reverse.mp hc)
  have hsuffix : (ext.reverse ++ '.' :: base.reverse).takeWhile (· ≠ '.') = ext.reverse := by
    rw [List.takeWhile_append_of_pos hall]
    simp
  have hbefore : (ext.reverse ++ '.' :: base.reverse).drop (ext.reverse.length + 1) =
      base.reverse := by
    rw [List.drop_append, List.drop_eq_nil_of_le (Nat.le_succ _), Nat.add_sub_cancel_left]
    rfl
  simp only [stem, hreverse, hsuffix, hbefore]
  simp [hbase, hext]

theorem stem_ne_nil {name : List Char} (h : name ≠ []) : stem name ≠ [] := by
  unfold stem
  dsimp only
  split
  · exact h
  · next hsuffix =>
    simp only [Bool.or_eq_true, List.isEmpty_iff, not_or] at hsuffix
    simpa using hsuffix.2

/-- The last name of a path is that of a page: something followed by the suffix of pages. -/
def NamesPage (p : Path) : Prop :=
  ∃ base, base ≠ "" ∧ p.parts.getLast? = some (base ++ ".html")

theorem withSuffix_eq_ok {suffix : String} (h : p.withSuffix suffix = .ok q) :
    ∃ name, p.parts.getLast? = some name ∧
      q = { p with parts := p.parts.dropLast ++ [String.ofList (stem name.toList) ++ suffix] } := by
  unfold withSuffix at h
  split at h
  · cases h
  · next name hname =>
    cases h
    exact ⟨name, hname, rfl⟩

/-- A path with the suffix of pages keeps it. -/
theorem NamesPage.withSuffix_eq (h : p.NamesPage) : p.withSuffix ".html" = .ok p := by
  obtain ⟨base, hbase, hname⟩ := h
  have hstem : stem (base ++ ".html").toList = base.toList := by
    rw [String.toList_append]
    exact stem_append (by simpa using hbase) (by decide) (by decide)
  have hparts : p.parts.dropLast ++ [base ++ ".html"] = p.parts := by
    obtain ⟨names, hnames⟩ := List.getLast?_eq_some_iff.mp hname
    rw [hnames, List.dropLast_concat]
  rw [withSuffix, hname]
  dsimp only
  rw [hstem, String.ofList_toList, hparts]

theorem namesPage_of_stem {name : String} (hname : p.parts.getLast? = some name)
    (h : String.ofList (stem name.toList) ++ ".html" = name) : p.NamesPage := by
  refine ⟨String.ofList (stem name.toList), ?_, by rw [h, hname]⟩
  intro hempty
  have hnil : stem name.toList = [] := by simpa using hempty
  have hne : name.toList ≠ [] := by
    rw [← h]
    simp
  exact stem_ne_nil hne hnil

/-- The paths that keep their name with the suffix of pages are those that have it. -/
theorem withSuffix_html_eq_iff : (p.withSuffix ".html").toOption = some p ↔ p.NamesPage := by
  constructor
  · intro h
    cases hq : p.withSuffix ".html" with
    | error e => simp [hq, Except.toOption] at h
    | ok q =>
      obtain ⟨name, hname, hparts⟩ := withSuffix_eq_ok hq
      rw [hq, Except.toOption, Option.some.injEq] at h
      rw [h] at hparts
      have hlast := congrArg (fun p : Path => p.parts.getLast?) hparts
      rw [hname, List.getLast?_concat, Option.some.injEq] at hlast
      exact namesPage_of_stem hname hlast.symm
  · intro h
    rw [h.withSuffix_eq, Except.toOption]

instance : DecidablePred NamesPage :=
  fun _ => decidable_of_iff _ withSuffix_html_eq_iff

end ResumePress.Path
