import ResumePress.Proofs.Files.Path
import ResumePress.Proofs.Publish.Outcome

/-!
# What becomes of a resume that is published

Unless something else is said, the page goes next to the resume, under the name of the resume with
the suffix of pages. A resume of another suffix stays as it is, and publishing it once more makes
the same page again. A resume that has the suffix of pages stands where its page goes and is lost.
All this is about runs that made a page, so about files without anchors, aliases, tags, directives,
merging keys and functions of references, which do not load here.
-/
namespace ResumePress

variable {s s' after : Store}

/-! ## Reading the same files again -/

theorem configOf_of_read {p : Path} {t : String} (h : s.read p = .ok t) (role : FileRole) :
    configOf s role p = liftConfig (Config.ofText t) := by
  obtain ⟨spot, hw, hat⟩ := Store.read_eq_ok h
  have hthere : s.contains p = true := by simp [Store.contains, Store.entry?, hw, hat]
  rw [configOf, if_pos hthere, h]

theorem configOf_eq_ok {role : FileRole} {p : Path} {v : Value} (h : configOf s role p = .ok v) :
    ∃ t, s.read p = .ok t ∧ Config.ofText t = .ok v := by
  unfold configOf at h
  split at h
  · split at h
    · cases h
    · next t ht =>
      cases hv : Config.ofText t with
      | error e =>
        rw [hv] at h
        cases h
      | ok w =>
        rw [hv] at h
        cases h
        exact ⟨t, ht, hv⟩
  · cases h

theorem exists_text_of_configOf {role : FileRole} {p : Path} {v : Value}
    (h : configOf s role p = .ok v) : ∃ t, s.read p = .ok t := by
  obtain ⟨t, ht, -⟩ := configOf_eq_ok h
  exact ⟨t, ht⟩

theorem configOf_eq_error {role : FileRole} {p : Path} {e : Fault}
    (h : configOf s role p = .error e) :
    e = .missing role p.shown ∨ (∃ f, e = .files f) ∨ ∃ c, e = .config c := by
  unfold configOf at h
  split at h
  · split at h
    · next f _ =>
      cases h
      exact .inr (.inl ⟨f, rfl⟩)
    · next t _ =>
      cases hv : Config.ofText t with
      | error c =>
        rw [hv] at h
        cases h
        exact .inr (.inr ⟨c, rfl⟩)
      | ok v =>
        rw [hv] at h
        cases h
  · cases h
    exact .inl rfl

theorem Catalog.load_congr {themes : Option Path}
    (h : ∀ p ∈ themes, configOf s' .themes p = configOf s .themes p) :
    load s' themes = load s themes := by
  cases themes with
  | none => rfl
  | some p => rw [load, load, h p rfl]

theorem Catalog.result_loadTheme (s : Store) (name : String) (themes : Option Path) :
    (loadTheme s name themes).result =
      load s themes >>= fun catalog => catalog.theme (.text name) := by
  simp only [loadTheme, Logged.result_bind, Logged.result_quietly, Logged.result_say]
  cases load s themes with
  | error e => rfl
  | ok catalog => cases hc : catalog.theme (.text name) <;> simp [bind, Except.bind, hc]

theorem Resume.result_load (s : Store) (p : Path) :
    (load s p).result = configOf s .resume p >>= ofConfig := by
  simp only [load, Logged.result_bind, Logged.result_quietly, Logged.result_say]
  cases configOf s .resume p with
  | error e => rfl
  | ok config => cases hr : ofConfig config <;> simp [bind, Except.bind, hr]

namespace Request

variable {r : Request} {target : Path} {page : String}

theorem Yields.exists_texts (h : r.Yields s page) :
    (∃ t, s.read r.resume = .ok t) ∧ ∀ p ∈ r.themes, ∃ t, s.read p = .ok t := by
  obtain ⟨theme, resume, htheme, hresume, -⟩ := h
  constructor
  · rw [Resume.result_load] at hresume
    obtain ⟨v, hconfig, -⟩ := bind_eq_ok.mp hresume
    exact exists_text_of_configOf hconfig
  · intro p hp
    rw [Option.mem_def.mp hp, Catalog.result_loadTheme] at htheme
    obtain ⟨catalog, hload, -⟩ := bind_eq_ok.mp htheme
    rw [Catalog.load] at hload
    split at hload
    · cases hload
    · next config hconfig => exact exists_text_of_configOf hconfig

theorem page_congr (hresume : configOf s' .resume r.resume = configOf s .resume r.resume)
    (hthemes : ∀ p ∈ r.themes, configOf s' .themes p = configOf s .themes p) :
    r.page s' = r.page s := by
  rw [page, page, Catalog.loadTheme, Catalog.loadTheme, Resume.load, Resume.load, hresume,
    Catalog.load_congr hthemes]

/-- The theme is looked up first, so what is wrong with it is what publishing tells. -/
theorem result_publish_of_theme_error {c : Catalog} {e : Fault}
    (ht : ∃ target, r.target = .ok target) (hload : Catalog.load s r.themes = .ok c)
    (htheme : c.theme (.text r.theme) = .error e) :
    (r.publish s).2.result = match e.reported? with
      | some message => .ok (.failed message)
      | none => .error e := by
  obtain ⟨target, ht⟩ := ht
  have hpage : (r.page s).result = .error e := by
    rw [result_page, Catalog.result_loadTheme, hload]
    simp only [bind, Except.bind, htheme]
  simp only [publish, ht, hpage]
  cases e.reported? <;> rfl

/-! ## Delivering next to a file that can be read -/

/-- A directory that is there is not made, so that only the page is new. -/
theorem deliver_of_directory {spot : Spot} (hw : s.walk target.parent = .ok spot)
    (hat : s.at? spot = some .directory) :
    deliver s target page = match s.write target page with
      | .error e => (s, .error (.files e))
      | .ok after => (after, .ok ()) := by
  have hdirs := Store.leaveDirs_of_directory hw hat
  unfold deliver
  split
  · next h =>
    rw [hdirs] at h
    cases h
  · next h =>
    rw [hdirs] at h
    cases h
    rfl

theorem publish_of_write {spot : Spot} (ht : r.target = .ok target)
    (hp : (r.page s).result = .ok page) (hw : s.walk target.parent = .ok spot)
    (hat : s.at? spot = some .directory) (hwrite : s.write target page = .ok after) :
    r.publish s = (after, ⟨r.opening target ++ (r.page s).records ++ r.closing (.written target),
      .ok (.written target)⟩) := by
  have hd : deliver s target page = (after, .ok ()) := by
    rw [deliver_of_directory hw hat, hwrite]
  simp only [publish, ht, hp, hd]

/-! ## Publishing without an output path -/

/-- The themes are read from elsewhere than where the page goes. -/
def ThemesApart (s : Store) (r : Request) : Prop :=
  ∀ p ∈ r.themes, ∀ target, r.target = .ok target → ∀ x, s.walk p = .ok x → s.walk target ≠ .ok x

variable (hout : r.output = none)
include hout

theorem target_eq_ok (ht : r.target = .ok target) : ∃ name, r.resume.parts.getLast? = some name ∧
    target = { r.resume with parts :=
      r.resume.parts.dropLast ++ [String.ofList (Path.stem name.toList) ++ ".html"] } := by
  rw [Request.target, hout] at ht
  exact Path.withSuffix_eq_ok ht

theorem exists_directory (ht : r.target = .ok target) (hpage : r.Yields s page) :
    ∃ d, s.walk target.parent = .ok d ∧ s.at? d = some .directory := by
  obtain ⟨name, hname, rfl⟩ := target_eq_ok hout ht
  obtain ⟨t, hread⟩ := hpage.exists_texts.1
  obtain ⟨spot, hw, -⟩ := Store.read_eq_ok hread
  obtain ⟨d, hd, hdir, -⟩ := Store.walk_eq_ok hname hw
  rw [Path.parent, List.dropLast_concat]
  exact ⟨d, hd, hdir⟩

theorem publish_eq_or_write (s : Store) : (r.publish s).1 = s ∨
    ∃ target page, r.target = .ok target ∧ (r.page s).result = .ok page ∧
      s.write target page = .ok (r.publish s).1 := by
  have hrun := run_publish s r
  generalize (r.publish s).1 = after, (r.publish s).2.records = records,
    (r.publish s).2.result = result at hrun ⊢
  cases hrun with
  | nameless => exact .inl rfl
  | reported => exact .inl rfl
  | ended => exact .inl rfl
  | @undelivered target page after e ht hp hd =>
    obtain ⟨spot, hw, hat⟩ := exists_directory hout ht (yields_of_page hp)
    rw [deliver_of_directory hw hat] at hd
    split at hd
    · cases hd
      exact .inl rfl
    · cases hd
  | @written target page after ht hp hd =>
    obtain ⟨spot, hw, hat⟩ := exists_directory hout ht (yields_of_page hp)
    rw [deliver_of_directory hw hat] at hd
    split at hd
    · cases hd
    · next hwrite =>
      cases hd
      exact .inr ⟨target, page, ht, hp, hwrite⟩

theorem walk_target_ne (hname : ¬ r.resume.NamesPage) (ht : r.target = .ok target) {x : Spot}
    (hw : s.walk r.resume = .ok x) : s.walk target ≠ .ok x := by
  obtain ⟨name, hlast, rfl⟩ := target_eq_ok hout ht
  refine Store.walk_sibling_ne hlast ?_ ?_ hw
  · intro heq
    exact hname (Path.namesPage_of_stem hlast heq)
  · intro heq
    have hlen := congrArg String.length heq
    rw [String.length_append] at hlen
    have hsuffix : ".html".length = 5 := rfl
    have hdots : "..".length = 2 := rfl
    omega

theorem read_resume_publish (hname : ¬ r.resume.NamesPage) (s : Store) :
    (r.publish s).1.read r.resume = s.read r.resume := by
  rcases publish_eq_or_write hout s with hsame | ⟨target, page, ht, hp, hwrite⟩
  · rw [hsame]
  · obtain ⟨t, hread⟩ := (yields_of_page hp).exists_texts.1
    rw [hread]
    exact Store.read_of_write hwrite hread fun x hx => walk_target_ne hout hname ht hx

/-- The second time everything is found as it was the first time, and the page is there already. -/
theorem publish_publish (hname : ¬ r.resume.NamesPage) (hthemes : r.ThemesApart s) :
    r.publish (r.publish s).1 = r.publish s := by
  rcases publish_eq_or_write hout s with hsame | ⟨target, page, ht, hp, hwrite⟩
  · rw [hsame]
  · generalize (r.publish s).1 = after at hwrite
    have hpage := yields_of_page hp
    obtain ⟨t, hread⟩ := hpage.exists_texts.1
    have hresume := Store.read_of_write hwrite hread fun x hx => walk_target_ne hout hname ht hx
    -- theme and resume are read from files that the first run has left alone
    have hsame : r.page after = r.page s := by
      apply page_congr
      · rw [configOf_of_read hread, configOf_of_read hresume]
      · intro p hmem
        obtain ⟨u, hu⟩ := hpage.exists_texts.2 p hmem
        have hu' := Store.read_of_write hwrite hu (hthemes p hmem _ ht)
        rw [configOf_of_read hu, configOf_of_read hu']
    obtain ⟨spot, hw, hat⟩ := exists_directory hout ht hpage
    have hkeeps := Store.keepsDirectories_write hwrite
    rw [publish_of_write ht hp hw hat hwrite, publish_of_write ht (hsame ▸ hp) (hkeeps.walk_eq hw)
      (hkeeps _ hat) (Store.write_of_write hwrite), hsame]

theorem exists_page_of_namesPage (hname : r.resume.NamesPage) {path : Path}
    (h : (r.publish s).2.result = .ok (.written path)) :
    ∃ page, r.Yields s page ∧ (r.publish s).1.read r.resume = .ok page := by
  have htarget : r.target = .ok r.resume := by
    rw [Request.target, hout]
    exact hname.withSuffix_eq
  have hrun := run_publish s r
  rw [h] at hrun
  generalize (r.publish s).1 = after, (r.publish s).2.records = records at hrun ⊢
  cases hrun with
  | @written target page after ht hp hd =>
    rw [htarget] at ht
    cases ht
    exact ⟨page, yields_of_page hp, (deliver_spec hd).1⟩

/-- What becomes of a resume whose page goes next to it depends on its name alone. -/
theorem publish_source (s : Store) :
    (¬ r.resume.NamesPage → (r.publish s).1.read r.resume = s.read r.resume ∧
      (r.ThemesApart s → r.publish (r.publish s).1 = r.publish s)) ∧
    (r.resume.NamesPage → ∀ path, (r.publish s).2.result = .ok (.written path) →
      ∃ page, r.Yields s page ∧ (r.publish s).1.read r.resume = .ok page) :=
  ⟨fun hname => ⟨read_resume_publish hout hname s, publish_publish hout hname⟩,
    fun hname _ => exists_page_of_namesPage hout hname⟩

omit hout

def shortResume (name : String) : Store :=
  ⟨[([name], .text "first_name: Ada\nlast_name: Lovelace\n")]⟩

def nextTo (name : String) : Request :=
  ⟨⟨false, [name]⟩, "default", none, .verbatim, none⟩

theorem publish_source_shortResume :
    ((nextTo "ada.yaml").publish (shortResume "ada.yaml")).1.read ⟨false, ["ada.yaml"]⟩ =
      (shortResume "ada.yaml").read ⟨false, ["ada.yaml"]⟩ ∧
    (nextTo "ada.yaml").publish ((nextTo "ada.yaml").publish (shortResume "ada.yaml")).1 =
      (nextTo "ada.yaml").publish (shortResume "ada.yaml") := by
  have hname : ¬ (nextTo "ada.yaml").resume.NamesPage := by decide +kernel
  have hthemes : (nextTo "ada.yaml").ThemesApart (shortResume "ada.yaml") := by
    intro p hp
    cases hp
  obtain ⟨hread, hagain⟩ := (publish_source rfl (shortResume "ada.yaml")).1 hname
  exact ⟨hread, hagain hthemes⟩

/-- A resume that is called as its page does not outlast being published. -/
theorem not_forall_read_resume_publish : ¬ ∀ (s : Store) (r : Request), r.output = none →
    (r.publish s).1.read r.resume = s.read r.resume := by
  intro h
  have hread := congrArg Except.toOption (h (shortResume "ada.html") (nextTo "ada.html") rfl)
  revert hread
  decide +kernel

end Request

end ResumePress
