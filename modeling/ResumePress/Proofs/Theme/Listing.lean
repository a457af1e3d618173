import ResumePress.Proofs.Publish.Source
import ResumePress.Proofs.Theme.Configured

/-!
# Names in a catalog

A themes file maps names to themes, and a name is whatever a key denotes: a text, a number or a
truth value. Names are listed if they have an order, so a listing holds texts or numbers but not
both. A theme is asked for by a text, which is found under a name that is this text and under no
other.
-/
namespace ResumePress

/-- What a single word of a document denotes. -/
inductive Value.IsScalar : Value → Prop
  | null : IsScalar .null
  | bool (b : Bool) : IsScalar (.bool b)
  | int (n : Int) : IsScalar (.int n)
  | float (x : Binary64) : IsScalar (.float x)
  | text (s : String) : IsScalar (.text s)

def HasScalarKeys (entries : List (Value × Value)) : Prop :=
  ∀ k ∈ entries.map Prod.fst, k.IsScalar

/-! ## Keys of a document -/

namespace Yaml

theorem isScalar_of_plainValue {cs : List Char} {v : Value} (h : plainValue cs = .ok v) :
    v.IsScalar := by
  unfold plainValue at h
  dsimp only at h
  split at h
  · cases h
    exact .null
  split at h
  · cases h
    exact .bool true
  split at h
  · cases h
    exact .bool false
  split at h
  · cases h
  split at h
  · obtain ⟨n, -, rfl⟩ := map_eq_ok.mp h
    exact .int n
  · obtain ⟨x, -, rfl⟩ := map_eq_ok.mp h
    exact .float x
  · cases h
    exact .text _

namespace Tree

theorem isScalar_of_scalarValue {isPlain : Bool} {cs : List Char} {v : Value}
    (h : scalarValue isPlain cs = .ok v) : v.IsScalar := by
  unfold scalarValue at h
  split at h
  · exact isScalar_of_plainValue h
  · cases h
    exact .text _

theorem isScalar_of_keyValue {t : Tree} {v : Value} (h : t.keyValue = .ok v) : v.IsScalar := by
  unfold keyValue at h
  split at h
  · split_ifs at h
    · cases h
      exact .text _
    · exact isScalar_of_scalarValue h
  · cases h

theorem hasScalarKeys_of_entryValues {es : List (Tree × Tree)} {entries : List (Value × Value)}
    (h : entryValues es = .ok entries) : HasScalarKeys entries := by
  induction es generalizing entries with
  | nil =>
    rw [entryValues] at h
    cases h
    exact nofun
  | cons e es ih =>
    obtain ⟨k, t⟩ := e
    rw [entryValues] at h
    obtain ⟨key, hkey, h⟩ := bind_eq_ok.mp h
    obtain ⟨v, -, h⟩ := bind_eq_ok.mp h
    obtain ⟨rest, hrest, h⟩ := bind_eq_ok.mp h
    cases h
    exact List.forall_mem_cons.mpr ⟨isScalar_of_keyValue hkey, ih hrest⟩

end Tree

end Yaml

/-! ## Keys of a mapping -/

open Yaml.Tree (oneKey)

/-- The keys are those of a mapping in a document: single words, and each of them once. -/
structure AreKeys (keys : List Value) : Prop where
  scalar : ∀ k ∈ keys, k.IsScalar
  distinct : keys.Pairwise fun earlier later => oneKey later earlier = false

theorem areKeys_nil : AreKeys [] where
  scalar := nofun
  distinct := .nil

theorem areKeys_cons_iff {k : Value} {keys : List Value} :
    AreKeys (k :: keys) ↔ k.IsScalar ∧ (∀ l ∈ keys, oneKey l k = false) ∧ AreKeys keys := by
  constructor
  · rintro ⟨hscalar, hdistinct⟩
    obtain ⟨hk, hscalar⟩ := List.forall_mem_cons.mp hscalar
    obtain ⟨hnew, hdistinct⟩ := List.pairwise_cons.mp hdistinct
    exact ⟨hk, hnew, hscalar, hdistinct⟩
  · rintro ⟨hk, hnew, hscalar, hdistinct⟩
    exact ⟨List.forall_mem_cons.mpr ⟨hk, hscalar⟩, List.pairwise_cons.mpr ⟨hnew, hdistinct⟩⟩

theorem areKeys_singleton {k : Value} (hk : k.IsScalar) : AreKeys [k] :=
  areKeys_cons_iff.mpr ⟨hk, nofun, areKeys_nil⟩

namespace Value

theorem mem_keys_of_putBy {one : Value → Value → Bool} {key value l : Value}
    {entries : List (Value × Value)} (h : l ∈ (putBy one key value entries).map Prod.fst) :
    l = key ∨ l ∈ entries.map Prod.fst := by
  induction entries with
  | nil => exact .inl (List.mem_singleton.mp h)
  | cons e entries ih =>
    obtain ⟨k, v⟩ := e
    rw [putBy] at h
    split at h
    · exact .inr h
    · rcases List.mem_cons.mp h with rfl | h
      · exact .inr List.mem_cons_self
      · exact (ih h).imp_right (List.mem_cons_of_mem _)

theorem areKeys_putBy {key value : Value} {entries : List (Value × Value)} (hkey : key.IsScalar)
    (h : AreKeys (entries.map Prod.fst)) :
    AreKeys ((putBy oneKey key value entries).map Prod.fst) := by
  induction entries with
  | nil => exact areKeys_singleton hkey
  | cons e entries ih =>
    obtain ⟨k, v⟩ := e
    obtain ⟨hk, hnew, hrest⟩ := areKeys_cons_iff.mp h
    rw [putBy]
    split
    · exact h
    · next hne =>
      refine areKeys_cons_iff.mpr ⟨hk, fun l hl => ?_, ih hrest⟩
      rcases mem_keys_of_putBy hl with rfl | hl
      · exact Bool.eq_false_iff.mpr hne
      · exact hnew l hl

theorem areKeys_foldl_putBy {given entries : List (Value × Value)} (hgiven : HasScalarKeys given)
    (h : AreKeys (entries.map Prod.fst)) :
    AreKeys ((given.foldl (fun es e => putBy oneKey e.1 e.2 es) entries).map Prod.fst) := by
  induction given generalizing entries with
  | nil => exact h
  | cons e given ih =>
    obtain ⟨hkey, hgiven⟩ := List.forall_mem_cons.mp hgiven
    exact ih hgiven (areKeys_putBy hkey h)

end Value

/-- What is read of a document has the keys of a document, if it is a mapping. -/
def IsDocument (v : Value) : Prop :=
  ∀ entries, v = .mapping entries → AreKeys (entries.map Prod.fst)

theorem Value.IsScalar.isDocument {v : Value} (h : v.IsScalar) : IsDocument v := by
  rintro entries rfl
  cases h

theorem Yaml.isDocument_of_value {t : Tree} {v : Value} (h : t.value = .ok v) : IsDocument v := by
  rintro entries rfl
  cases t with
  | scalar isPlain cs =>
    rw [Tree.value] at h
    cases Tree.isScalar_of_scalarValue h
  | sequence items =>
    rw [Tree.value] at h
    obtain ⟨vs, -, h⟩ := map_eq_ok.mp h
    cases h
  | mapping given =>
    rw [Tree.value] at h
    obtain ⟨read, hread, h⟩ := bind_eq_ok.mp h
    split at h
    · cases h
    · cases h
      exact Value.areKeys_foldl_putBy (Tree.hasScalarKeys_of_entryValues hread) areKeys_nil

theorem Yaml.isDocument_of_value? {cs : List Char} {v : Value} (h : value? cs = .ok (some v)) :
    IsDocument v := by
  obtain ⟨t, -, h⟩ := bind_eq_ok.mp h
  cases t with
  | none => cases h
  | some t =>
    obtain ⟨w, hw, h⟩ := bind_eq_ok.mp h
    cases h
    exact isDocument_of_value hw

namespace Config

/-- What a configuration file holds as a whole. -/
inductive IsRoot : Value → Prop
  | list (items : List Value) : IsRoot (.list items)
  | mapping {entries : List (Value × Value)} (h : AreKeys (entries.map Prod.fst)) :
    IsRoot (.mapping entries)

theorem isRoot_empty : IsRoot empty :=
  .mapping areKeys_nil

theorem isRoot_of_ofInnerText {s : String} {v : Value} (h : ofInnerText s = .ok v) : IsRoot v := by
  obtain ⟨w, hw, h⟩ := bind_eq_ok.mp h
  split at h
  · cases h
    exact isRoot_empty
  · cases h
    exact isRoot_empty
  · cases h
    exact .mapping (areKeys_singleton (.text _))
  · cases h
    exact .list _
  · cases h
    exact .mapping (Yaml.isDocument_of_value? hw _ rfl)
  · cases h

/-- Keys and references are checked last, and what is checked stays as it is. -/
theorem checked_eq_ok_iff {x : Except ConfigFault Value} {v : Value} :
    (x >>= fun u => check u >>= fun _ => .ok u) = .ok v ↔ x = .ok v ∧ check v = .ok () := by
  simp only [bind_eq_ok]
  constructor
  · rintro ⟨u, hu, _, hcheck, h⟩
    cases h
    exact ⟨hu, hcheck⟩
  · rintro ⟨hv, hcheck⟩
    exact ⟨v, hv, (), hcheck, rfl⟩

theorem isRoot_of_ofText {s : String} {v : Value} (h : ofText s = .ok v) : IsRoot v := by
  obtain ⟨w, hw, h⟩ := bind_eq_ok.mp h
  dsimp only at h
  split at h
  all_goals have hv := (checked_eq_ok_iff.mp h).1
  · cases hv
    exact isRoot_empty
  · cases hv
    exact isRoot_empty
  · exact isRoot_of_ofInnerText hv
  · cases hv
    exact .list _
  · cases hv
    exact .mapping (Yaml.isDocument_of_value? hw _ rfl)
  · cases hv

theorem check_of_ofText {s : String} {v : Value} (h : ofText s = .ok v) : check v = .ok () := by
  obtain ⟨w, -, h⟩ := bind_eq_ok.mp h
  dsimp only at h
  split at h
  all_goals exact (checked_eq_ok_iff.mp h).2

theorem null_notMem_of_checkEntries {entries : List (Value × Value)}
    (h : checkEntries entries = .ok ()) : Value.null ∉ entries.map Prod.fst := by
  induction entries with
  | nil => exact List.not_mem_nil
  | cons e entries ih =>
    obtain ⟨k, v⟩ := e
    unfold checkEntries at h
    split at h
    · next hnil => cases hnil
    · cases h
    · next hne heq =>
      cases heq
      split at h
      · cases h
      · rw [List.map_cons, List.mem_cons, not_or]
        exact ⟨fun hk => hne hk.symm, ih h⟩

theorem keys_resolveEntries {look : Lookup} {around : Around} {entries after : List (Value × Value)}
    (h : resolveEntries look around entries = .ok after) :
    after.map Prod.fst = entries.map Prod.fst := by
  induction entries generalizing after with
  | nil =>
    rw [resolveEntries] at h
    cases h
    rfl
  | cons e entries ih =>
    obtain ⟨k, v⟩ := e
    rw [resolveEntries] at h
    obtain ⟨w, -, h⟩ := bind_eq_ok.mp h
    obtain ⟨rest, hrest, h⟩ := bind_eq_ok.mp h
    cases h
    rw [List.map_cons, List.map_cons, ih hrest]

theorem exists_given_of_resolve {root : Value} {entries : List (Value × Value)}
    (hroot : IsRoot root) (h : resolve root = .ok (.mapping entries)) :
    ∃ given, root = .mapping given ∧ entries.map Prod.fst = given.map Prod.fst := by
  cases hroot with
  | list items =>
    rw [resolve, resolveWith] at h
    obtain ⟨vs, -, h⟩ := map_eq_ok.mp h
    cases h
  | mapping hkeys =>
    rw [resolve, resolveWith] at h
    obtain ⟨after, hafter, h⟩ := map_eq_ok.mp h
    cases h
    exact ⟨_, rfl, keys_resolveEntries hafter⟩

end Config

namespace Catalog

variable {c : Catalog} {names : List Value}

theorem exists_given_of_load {s : Store} {p : Path} (h : load s (some p) = .ok c) :
    ∃ t given, Config.ofText t = .ok (.mapping given) ∧ c.names = given.map Prod.fst := by
  unfold load at h
  dsimp only at h
  split at h
  · cases h
  · next config hconfig =>
    obtain ⟨t, -, ht⟩ := configOf_eq_ok hconfig
    split at h
    · cases h
    · next entries hentries =>
      cases h
      obtain ⟨given, rfl, hkeys⟩ :=
        Config.exists_given_of_resolve (Config.isRoot_of_ofText ht) hentries
      exact ⟨t, given, ht, hkeys⟩
    · cases h

theorem names_shipped : shipped.names = [.text "default", .text "dracula", .text "forest"] := rfl

/-- The names in a catalog are those of a document, whether it is shipped or read. -/
theorem areKeys_of_load {s : Store} {file : Option Path} (h : load s file = .ok c) :
    AreKeys c.names := by
  cases file with
  | none =>
    cases h
    rw [names_shipped]
    have hne (s t : String) (h : s ≠ t) : oneKey (.text s) (.text t) = false := by
      simp [oneKey, Value.same, Value.sameAtom, Value.content?, h]
    simp only [areKeys_cons_iff, List.forall_mem_cons]
    have hnil (P : Value → Prop) : ∀ v ∈ ([] : List Value), P v := List.forall_mem_nil P
    exact ⟨.text _, ⟨hne _ _ (by decide), hne _ _ (by decide), hnil _⟩,
      .text _, ⟨hne _ _ (by decide), hnil _⟩, .text _, hnil _, areKeys_nil⟩
  | some p =>
    obtain ⟨t, given, ht, hnames⟩ := exists_given_of_load h
    rw [hnames]
    obtain - | hkeys := Config.isRoot_of_ofText ht
    exact hkeys

theorem hasScalarKeys_of_load {s : Store} {file : Option Path} (h : load s file = .ok c) :
    HasScalarKeys c.entries :=
  (areKeys_of_load h).scalar

theorem null_notMem_of_load {s : Store} {file : Option Path} (h : load s file = .ok c) :
    Value.null ∉ c.names := by
  cases file with
  | none =>
    cases h
    simp [names_shipped]
  | some p =>
    obtain ⟨t, given, ht, hnames⟩ := exists_given_of_load h
    rw [hnames]
    exact Config.null_notMem_of_checkEntries (Config.check_of_ofText ht)

/-! ## Listing and finding -/

theorem available_eq_ok (h : c.available = .ok names) :
    Value.sortable c.names = true ∧ ∀ n, n ∈ names ↔ n ∈ c.names := by
  unfold available Value.sorted? at h
  split_ifs at h with hsort
  cases h
  exact ⟨hsort, fun n => List.mem_mergeSort⟩

end Catalog

namespace Value

/-- Words that have an order are texts or numbers, but not both. -/
theorem forall_not_text_of_sortable {vs : List Value} (hscalar : ∀ v ∈ vs, v.IsScalar)
    (hsort : sortable vs = true) {n : Value} (hn : n ∈ vs) (hnot : ∀ s, n ≠ .text s) :
    ∀ s, Value.text s ∉ vs := by
  intro s hs
  rw [sortable, Bool.or_eq_true, Bool.or_eq_true, decide_eq_true_iff, List.all_eq_true,
    List.all_eq_true] at hsort
  rcases hsort with (hone | hnumbers) | htexts
  · -- a single name is itself
    match vs, hone with
    | [v], _ => exact hnot s ((List.mem_singleton.mp hn).trans (List.mem_singleton.mp hs).symm)
  · have hkey := hnumbers _ hs
    simp [orderKey?, number?, content?, OrderKey.isText] at hkey
  · have hkey := htexts n hn
    have hword := hscalar n hn
    cases hword with
    | text t => exact hnot t rfl
    | _ => simp [orderKey?, number?, content?, OrderKey.isText] at hkey

theorem find?_text_of_mem {name : String} {entries : List (Value × Value)}
    (h : Value.text name ∈ entries.map Prod.fst) : ∃ v, find? (.text name) entries = some v := by
  induction entries with
  | nil => cases h
  | cons e entries ih =>
    obtain ⟨k, v⟩ := e
    rw [find?]
    split
    · exact ⟨v, rfl⟩
    · next hne =>
      rcases List.mem_cons.mp h with rfl | h
      · simp [same, sameAtom, content?] at hne
      · exact ih h

/-- A text finds no word but itself. -/
theorem find?_text_of_notMem {name : String} {entries : List (Value × Value)}
    (hscalar : HasScalarKeys entries) (h : Value.text name ∉ entries.map Prod.fst) :
    find? (.text name) entries = none := by
  induction entries with
  | nil => rfl
  | cons e entries ih =>
    obtain ⟨k, v⟩ := e
    obtain ⟨hk, hrest⟩ := List.forall_mem_cons.mp hscalar
    rw [List.map_cons, List.mem_cons, not_or] at h
    have hne : same (.text name) k = false := by
      cases hk with
      | text s =>
        have hs : name ≠ s := fun hs => h.1 (congrArg Value.text hs)
        simp [same, sameAtom, content?, hs]
      | _ => simp [same, sameAtom, content?, number?]
    rw [find?, hne]
    exact ih hrest h.2

end Value

/-! ## Faults of themes -/

/-- The fault is that of a theme that is there: what its configuration says is wrong, or is of the
wrong kind. -/
def Fault.IsOfTheme : Fault → Prop
  | theme _ _ => True
  | misuse _ => True
  | _ => False

namespace Catalog

variable {c : Catalog} {names : List Value} {name : String}

/-- A theme whose name is the text is found. -/
theorem isOfTheme_of_theme (h : Value.text name ∈ c.names) {e : Fault}
    (he : c.theme (.text name) = .error e) : e.IsOfTheme := by
  obtain ⟨config, hconfig⟩ := Value.find?_text_of_mem h
  rw [theme_of_find? hconfig] at he
  by_cases hkind : ∀ m, ¬ PaletteTheme.IsMisshapen config m
  · obtain ⟨⟨cause, n, rfl⟩, -⟩ | ⟨rfl, -⟩ := PaletteTheme.tells_of_ofConfig hkind he
    · trivial
    · trivial
  · obtain ⟨m, hbad⟩ := not_forall_not.mp hkind
    rw [hbad.ofConfig_eq] at he
    cases he
    trivial

/-- That a theme is missing is told if the names that are there can be spelled out. -/
theorem told_unknownTheme (name : String) {names : List Value} (h : allSpellable names = true) :
    (Fault.unknownTheme (.text name) names).told = .unknownTheme (.text name) names :=
  Fault.told_of_isSpellable (by simp [Fault.isSpellable, h])

theorem theme_of_notMem (hscalar : HasScalarKeys c.entries) (h : Value.text name ∉ c.names) :
    c.theme (.text name) = match c.available with
      | .ok names => Fault.raise (.unknownTheme (.text name) names)
      | .error e => .error e := by
  rw [theme]
  split
  · next config hconfig =>
    rw [Value.find?_text_of_notMem hscalar h] at hconfig
    cases hconfig
  · rfl

/-- Beside a name that is no text there is none that a text finds. -/
theorem theme_eq_unknownTheme (hscalar : HasScalarKeys c.entries) (hlist : c.available = .ok names)
    {n : Value} (hn : n ∈ names) (hnot : ∀ s, n ≠ .text s) (name : String) :
    c.theme (.text name) = Fault.raise (.unknownTheme (.text name) names) := by
  obtain ⟨hsort, hmem⟩ := available_eq_ok hlist
  have hnone : ∀ s, Value.text s ∉ c.names :=
    Value.forall_not_text_of_sortable hscalar hsort ((hmem n).mp hn) hnot
  rw [theme_of_notMem hscalar (hnone name), hlist]

end Catalog

end ResumePress
