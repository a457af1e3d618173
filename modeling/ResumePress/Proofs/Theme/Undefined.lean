import ResumePress.Proofs.Theme.Listing

/-!
# Themes that are not there

A theme that a catalog does not have is reported together with the names that it has, which are
sorted for the report as they are for the listing. Texts can be sorted, and so can numbers and truth
values, but not the two together. A catalog with names of both kinds has no listing, and what is
missing in it is not reported; neither is it where a name is a number of too many digits to be told.
Themes files with anchors, aliases, tags, directives, merging keys or the functions of references do
not load here at all, so nothing is said about them.
-/
namespace ResumePress

namespace Value

variable {v : Value} {vs : List Value}

/-- The values are texts, or none of them is. -/
def AreAlike (vs : List Value) : Prop :=
  (∀ v ∈ vs, ∃ s, v = .text s) ∨ ∀ v ∈ vs, ∀ s, v ≠ .text s

/-- A word that is not empty and is no text is ordered as a number. -/
theorem IsScalar.exists_number (h : v.IsScalar) (hnull : v ≠ .null) (htext : ∀ s, v ≠ .text s) :
    ∃ x, v.orderKey? = some (.number x) := by
  cases h with
  | null => exact absurd rfl hnull
  | text s => exact absurd rfl (htext s)
  | bool | int | float => exact ⟨_, rfl⟩

/-- Words have an order exactly if they are of one kind. -/
theorem sortable_iff_areAlike (hscalar : ∀ v ∈ vs, v.IsScalar) (hnull : .null ∉ vs) :
    sortable vs = true ↔ AreAlike vs := by
  constructor
  · intro hsort
    by_cases htexts : ∀ v ∈ vs, ∃ s, v = .text s
    · exact .inl htexts
    · push Not at htexts
      obtain ⟨n, hn, hnot⟩ := htexts
      have hnone := forall_not_text_of_sortable hscalar hsort hn hnot
      exact .inr fun v hv s hs => hnone s (hs ▸ hv)
  · intro hkind
    rw [sortable, Bool.or_eq_true, Bool.or_eq_true, List.all_eq_true, List.all_eq_true]
    rcases hkind with htexts | hnumbers
    · refine .inr fun v hv => ?_
      obtain ⟨s, rfl⟩ := htexts v hv
      rfl
    · refine .inl (.inr fun v hv => ?_)
      have hv' : v ≠ .null := fun h => hnull (h ▸ hv)
      obtain ⟨x, hx⟩ := (hscalar v hv).exists_number hv' (hnumbers v hv)
      simp [hx, OrderKey.isText]

end Value

theorem Value.IsScalar.oneKey_self {v : Value} (h : v.IsScalar) : Yaml.Tree.oneKey v v = true := by
  cases h with
  | float x => cases x <;> simp [Yaml.Tree.oneKey, same, sameAtom, content?, Binary64.same]
  | _ => simp [Yaml.Tree.oneKey, same, sameAtom, content?, number?]

theorem AreKeys.nodup {keys : List Value} (h : AreKeys keys) : keys.Nodup := by
  refine h.distinct.imp_of_mem ?_
  rintro earlier later hearlier - hne rfl
  rw [(h.scalar _ hearlier).oneKey_self] at hne
  cases hne

namespace Catalog

variable {s : Store} {file : Option Path} {c : Catalog} {names : List Value}

theorem available_of_sortable (h : Value.sortable c.names = true) :
    c.available = .ok (c.names.mergeSort Value.notAfter) := by
  simp [available, Value.sorted?, h]

theorem available_of_not_sortable (h : Value.sortable c.names = false) :
    c.available = .error (.misuse .noOrder) := by
  simp [available, Value.sorted?, h]

def Lists (s : Store) (file : Option Path) (c : Catalog) (names : List Value) : Prop :=
  (load s file >>= available) = .ok names ∧ names.Perm c.names ∧ names.Nodup

/-- There is a listing of the catalog, and every theme that is not there is reported with it. -/
def ReportsMissing (s : Store) (file : Option Path) (c : Catalog) : Prop :=
  ∃ names, Lists s file c names ∧ ∀ name, .text name ∉ c.names →
    (loadTheme s name file).result = .error (.unknownTheme (.text name) names)

/-- Neither the listing of the catalog nor a missing theme is told, for want of an order. -/
def LacksOrder (s : Store) (file : Option Path) (c : Catalog) : Prop :=
  (load s file >>= available) = .error (.misuse .noOrder) ∧
    ∀ name, .text name ∉ c.names → (loadTheme s name file).result = .error (.misuse .noOrder)

/-- There is a listing of the catalog, but it cannot be told in the report of a theme that is not
there. -/
def IsMute (s : Store) (file : Option Path) (c : Catalog) : Prop :=
  (∃ names, Lists s file c names) ∧ ∀ name, .text name ∉ c.names →
    (loadTheme s name file).result = .error (.misuse .unspellable)

theorem isSpellable_unknownTheme (name : String) :
    (Fault.unknownTheme (.text name) (c.names.mergeSort Value.notAfter)).isSpellable =
      allSpellable c.names := by
  rw [Bool.eq_iff_iff]
  simp [Fault.isSpellable]

section

variable (hload : load s file = .ok c)
include hload

theorem listing_of_load : (load s file >>= available) = c.available := by
  rw [hload]
  rfl

theorem result_loadTheme_of_notMem {name : String} (h : .text name ∉ c.names) :
    (loadTheme s name file).result = match c.available with
      | .ok names => Fault.raise (.unknownTheme (.text name) names)
      | .error e => .error e := by
  rw [result_loadTheme, hload]
  exact theme_of_notMem (hasScalarKeys_of_load hload) h

theorem sortable_names_iff : Value.sortable c.names = true ↔ Value.AreAlike c.names :=
  Value.sortable_iff_areAlike (areKeys_of_load hload).scalar (null_notMem_of_load hload)

theorem lists_of_areAlike (h : Value.AreAlike c.names) :
    Lists s file c (c.names.mergeSort Value.notAfter) := by
  have hlist := available_of_sortable ((sortable_names_iff hload).mpr h)
  have hperm := List.mergeSort_perm c.names Value.notAfter
  exact ⟨(listing_of_load hload).trans hlist, hperm, hperm.symm.nodup (areKeys_of_load hload).nodup⟩

theorem result_loadTheme_of_areAlike (h : Value.AreAlike c.names) {name : String}
    (hname : .text name ∉ c.names) : (loadTheme s name file).result =
      Fault.raise (.unknownTheme (.text name) (c.names.mergeSort Value.notAfter)) := by
  rw [result_loadTheme_of_notMem hload hname,
    available_of_sortable ((sortable_names_iff hload).mpr h)]

theorem reportsMissing_of_areAlike (h : Value.AreAlike c.names)
    (hspells : allSpellable c.names = true) : ReportsMissing s file c := by
  refine ⟨_, lists_of_areAlike hload h, fun name hname => ?_⟩
  rw [result_loadTheme_of_areAlike hload h hname, Fault.raise,
    Fault.told_of_isSpellable ((isSpellable_unknownTheme name).trans hspells)]

theorem isMute_of_areAlike (h : Value.AreAlike c.names) (hspells : ¬ allSpellable c.names = true) :
    IsMute s file c := by
  refine ⟨⟨_, lists_of_areAlike hload h⟩, fun name hname => ?_⟩
  have hmute := (isSpellable_unknownTheme name).trans (Bool.eq_false_iff.mpr hspells)
  rw [result_loadTheme_of_areAlike hload h hname, Fault.raise, Fault.told_of_not_isSpellable hmute]

theorem lacksOrder_of_not_areAlike (h : ¬ Value.AreAlike c.names) : LacksOrder s file c := by
  have hsort := Bool.eq_false_iff.mpr (mt (sortable_names_iff hload).mp h)
  have hlist := available_of_not_sortable hsort
  refine ⟨(listing_of_load hload).trans hlist, fun name hname => ?_⟩
  rw [result_loadTheme_of_notMem hload hname, hlist]

end

theorem LacksOrder.not_reportsMissing (h : LacksOrder s file c) : ¬ ReportsMissing s file c := by
  rintro ⟨names, ⟨hlist, -⟩, -⟩
  rw [h.1] at hlist
  cases hlist

/-- Where a name cannot be spelled out and the others are like it, none of them is a text. -/
theorem text_notMem_of_areAlike (h : Value.AreAlike c.names)
    (hspells : ¬ allSpellable c.names = true) (name : String) : .text name ∉ c.names := by
  rcases h with htexts | hnumbers
  · refine absurd (allSpellable_iff.mpr fun v hv => ?_) hspells
    obtain ⟨s, rfl⟩ := htexts v hv
    rfl
  · exact fun hname => hnumbers _ hname name rfl

theorem IsMute.not_reportsMissing (h : IsMute s file c) {name : String}
    (hname : .text name ∉ c.names) : ¬ ReportsMissing s file c := by
  rintro ⟨names, -, hreport⟩
  have hmute := h.2 name hname
  rw [hreport name hname] at hmute
  cases hmute

/-- What is missing in a catalog is reported if and only if the names in it are of one kind and can
be spelled out. With names of several kinds neither the listing nor the report can be made, and with
a name of too many digits the report cannot. -/
theorem reportsMissing_iff (hload : load s file = .ok c) :
    (ReportsMissing s file c ↔ Value.AreAlike c.names ∧ ∀ v ∈ c.names, v.isSpellable = true) ∧
      (¬ Value.AreAlike c.names → LacksOrder s file c) ∧
      (Value.AreAlike c.names → (¬ ∀ v ∈ c.names, v.isSpellable = true) → IsMute s file c) := by
  rw [← allSpellable_iff]
  refine ⟨⟨fun h => ?_, fun h => reportsMissing_of_areAlike hload h.1 h.2⟩,
    lacksOrder_of_not_areAlike hload, isMute_of_areAlike hload⟩
  by_contra hnot
  by_cases hkinds : Value.AreAlike c.names
  · have hspells : ¬ allSpellable c.names = true := fun hs => hnot ⟨hkinds, hs⟩
    have hmissing := text_notMem_of_areAlike hkinds hspells ""
    exact (isMute_of_areAlike hload hkinds hspells).not_reportsMissing hmissing h
  · exact (lacksOrder_of_not_areAlike hload hkinds).not_reportsMissing h

/-! ## Two themes without colors -/

def twoKeys (first second : String) : Store :=
  ⟨[(["themes.yaml"], .text (first ++ ":\n" ++ second ++ ":\n"))]⟩

def themesFile : Option Path :=
  some ⟨false, ["themes.yaml"]⟩

def twoNamed (first second : Value) : Catalog :=
  ⟨[(first, .null), (second, .null)]⟩

def sameName : Value → Value → Bool
  | .text a, .text b => a == b
  | .int a, .int b => a == b
  | _, _ => false

def isTwoNamed (first second : Value) : Except Fault Catalog → Bool
  | .ok ⟨[(m, .null), (n, .null)]⟩ => sameName first m && sameName second n
  | _ => false

theorem eq_of_sameName {m n : Value} (h : sameName m n = true) : m = n := by
  unfold sameName at h
  split at h
  · rw [eq_of_beq h]
  · rw [eq_of_beq h]
  · cases h

theorem eq_of_isTwoNamed {first second : Value} {x : Except Fault Catalog}
    (h : isTwoNamed first second x = true) : x = .ok (twoNamed first second) := by
  unfold isTwoNamed at h
  split at h
  · obtain ⟨hfirst, hsecond⟩ := Bool.and_eq_true_iff.mp h
    rw [eq_of_sameName hfirst, eq_of_sameName hsecond, twoNamed]
  · cases h

theorem load_two_words : load (twoKeys "paper" "ink") themesFile =
    .ok (twoNamed (.text "paper") (.text "ink")) :=
  eq_of_isTwoNamed (by decide +kernel)

theorem load_number_and_word : load (twoKeys "1" "ink") themesFile =
    .ok (twoNamed (.int 1) (.text "ink")) :=
  eq_of_isTwoNamed (by decide +kernel)

theorem areAlike_two_words (a b : String) :
    Value.AreAlike (twoNamed (.text a) (.text b)).names :=
  .inl (by simp [twoNamed, names])

theorem not_areAlike_number_and_word (n : Int) (a : String) :
    ¬ Value.AreAlike (twoNamed (.int n) (.text a)).names := by
  simp [Value.AreAlike, twoNamed, names]

theorem isSpellable_two_words (a b : String) :
    ∀ v ∈ (twoNamed (.text a) (.text b)).names, v.isSpellable = true := by
  simp [twoNamed, names]

theorem reportsMissing_iff_twoNamed :
    ReportsMissing (twoKeys "paper" "ink") themesFile (twoNamed (.text "paper") (.text "ink")) ∧
      LacksOrder (twoKeys "1" "ink") themesFile (twoNamed (.int 1) (.text "ink")) :=
  ⟨(reportsMissing_iff load_two_words).1.mpr ⟨areAlike_two_words _ _, isSpellable_two_words _ _⟩,
    (reportsMissing_iff load_number_and_word).2.1 (not_areAlike_number_and_word _ _)⟩

theorem not_forall_reportsMissing : ¬ ∀ (s : Store) (file : Option Path) (c : Catalog),
    load s file = .ok c → ReportsMissing s file c := by
  intro h
  have horder := lacksOrder_of_not_areAlike load_number_and_word
    (not_areAlike_number_and_word 1 "ink")
  exact horder.not_reportsMissing (h _ _ _ load_number_and_word)

end Catalog

end ResumePress
