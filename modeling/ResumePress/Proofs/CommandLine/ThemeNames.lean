import ResumePress.CommandLine
import ResumePress.Proofs.Publish.MissingTheme
import ResumePress.Proofs.Text.Lines

/-!
# Asking for a theme that is listed

The names of themes are listed by one command and given to the other. What is given is a text, so a
theme is found under the name that was listed if the name is a text. A name that a document reads as
a number or a truth value is listed like any other, but no argument of the command line is that
name. Themes files with anchors, aliases, tags, directives, merging keys or the functions of
references are not listed here, so nothing is said about them.
-/
namespace ResumePress

namespace CommandLine

variable {s s' : Store} {r : Request} {c : Catalog}

/-- The report says that the theme of this name is not among those that there are. -/
def Report.MissesTheme (report : Report) (name : String) : Prop :=
  report.exit = 1 ∧ ∃ available, report.err = Text.lines ("✗ " ++
    ("Theme '" ++ name ++ "' not found. Available themes: " ++ available) ++ "\n")

/-- What is shown under the cross of a missing theme begins like the message of one. -/
theorem beginsLikeUnknown_of_lines_eq {shown name available : String}
    (h : Text.lines shown = Text.lines ("✗ " ++
      ("Theme '" ++ name ++ "' not found. Available themes: " ++ available) ++ "\n")) :
    ∃ cs, shown.toList = '✗' :: ' ' :: cs ∧ beginsLikeUnknown cs = true := by
  obtain ⟨rest, hrest⟩ := Text.isPrefix_of_lines_eq
    (a := ['✗', ' ', 'T', 'h', 'e', 'm', 'e', ' ', '\x27']) (by decide)
    (by simp [Text.isLineEnd]) h (by simp)
  exact ⟨_, hrest.symm, rfl⟩

theorem lines_empty_ne {name available : String} : [] ≠ Text.lines ("✗ " ++
    ("Theme '" ++ name ++ "' not found. Available themes: " ++ available) ++ "\n") := by
  intro h
  have hnothing : Text.lines "" = Text.lines _ := h
  obtain ⟨cs, hcs, -⟩ := beginsLikeUnknown_of_lines_eq hnothing
  cases hcs

theorem load_of_makeDirs {p : Path} {file : Option Path} (h : s.makeDirs p = .ok s')
    (hload : Catalog.load s file = .ok c) : Catalog.load s' file = .ok c := by
  rw [← hload]
  apply Catalog.load_congr
  rintro q rfl
  rw [Catalog.load] at hload
  split at hload
  · cases hload
  · next config hconfig =>
    obtain ⟨t, ht⟩ := exists_text_of_configOf hconfig
    rw [configOf_of_read ht, configOf_of_read ((Store.addsDirectories_of_makeDirs h).read_eq ht)]

theorem report_runRender (h : s.makeDirs journalDirectory = .ok s') :
    (runRender s r).2 = match (r.publish s').2.result with
      | .error e => .broken (sessionHead r.theme ++ (r.publish s').2.records) e
      | .ok (.failed message) => ⟨1, [], Text.lines ("✗ " ++ message ++ "\n"),
        sessionHead r.theme ++ (r.publish s').2.records, none⟩
      | .ok (.written p) => ⟨0, Text.lines ("✓ Wrote " ++ p.shown ++ "\n"), [],
        sessionHead r.theme ++ (r.publish s').2.records, none⟩ := by
  rw [runRender, h]
  dsimp only
  rcases (r.publish s').2.result with e | (p | message)
  all_goals rfl

/-- Where a theme of the name is there, the report does not miss it, nor any other. -/
theorem not_missesTheme_runRender (hload : Catalog.load s r.themes = .ok c)
    (hname : Value.text r.theme ∈ c.names) (name : String) :
    ¬ (runRender s r).2.MissesTheme name := by
  rintro ⟨hexit, available, herr⟩
  cases hdirs : s.makeDirs journalDirectory with
  | error e =>
    rw [runRender, hdirs] at herr
    exact lines_empty_ne herr
  | ok s' =>
    have hrun := Request.run_publish s' r
    rw [report_runRender hdirs] at hexit herr
    generalize (r.publish s').2.records = records, (r.publish s').2.result = result,
      (r.publish s').1 = after at hrun hexit herr
    cases hrun with
    | nameless | ended | undelivered => exact lines_empty_ne herr
    | written => cases hexit
    | @reported _ _ message ht hp he =>
      obtain ⟨cs, hcs, hbegins⟩ := beginsLikeUnknown_of_lines_eq herr
      have hcs' : cs = message.toList ++ ['\n'] := by simpa using hcs.symm
      have hother := Fault.begins_message (Fault.message?_of_reported? he)
        ((Request.fails_of_page hp).ne_unknownTheme (load_of_makeDirs hdirs hload) hname) ['\n']
      rw [hcs', hother] at hbegins
      cases hbegins

/-- The path of a file has a name, so a page can be put next to it. -/
theorem exists_target_of_isFile (h : isFile s r.resume = true) :
    ∃ target, r.target = .ok target := by
  rw [Request.target]
  cases r.output with
  | some p => exact ⟨p, rfl⟩
  | none =>
    dsimp only
    rw [Path.withSuffix]
    cases hname : r.resume.parts.getLast? with
    | some name => exact ⟨_, rfl⟩
    | none =>
      have hparts := List.getLast?_eq_none_iff.mp hname
      have hfixed : s.entry? r.resume = some .directory := by
        rw [Store.entry?, Store.walk, hparts, Store.walkFrom]
        cases r.resume.rooted
        all_goals exact Store.at?_of_isFixed (by decide) s
      rw [isFile, hfixed] at h
      cases h

/-- Where names that are no texts are listed, every theme is missing. -/
theorem missesTheme_runRender {names : List Value} (hdirs : s.makeDirs journalDirectory = .ok s')
    (hresume : isFile s r.resume = true) (hload : Catalog.load s r.themes = .ok c)
    (hlist : c.available = .ok names) (hspells : allSpellable names = true) {n : Value}
    (hn : n ∈ names) (hnot : ∀ m, n ≠ .text m) : (runRender s r).2.MissesTheme r.theme := by
  have htarget := exists_target_of_isFile hresume
  have htheme := Catalog.theme_eq_unknownTheme (Catalog.hasScalarKeys_of_load hload) hlist hn hnot
    r.theme
  rw [report_runRender hdirs,
    Request.result_publish_of_unknownTheme htarget (load_of_makeDirs hdirs hload) hspells htheme]
  exact ⟨rfl, _, rfl⟩

/-! ## Arguments -/

variable {args : List String} {file : Option Path}

theorem run_themes (h : Command.ofArguments? s args = some (.themes file)) :
    run s args = (s, runThemes s file) := by
  rw [run, h]

theorem run_render (h : Command.ofArguments? s args = some (.render r)) :
    run s args = runRender s r := by
  rw [run, h]

theorem isFile_of_renderRequest {a : Arguments} (h : renderRequest s a = some (.render r)) :
    isFile s r.resume = true := by
  unfold renderRequest at h
  split at h
  · cases h
  split at h
  · dsimp only at h
    split at h
    · next hfile =>
      cases h
      exact (Bool.and_eq_true_iff.mp hfile).2
    · cases h
  · cases h

/-- Only for a resume that is there a page is asked for. -/
theorem isFile_of_ofArguments? (h : Command.ofArguments? s args = some (.render r)) :
    isFile s r.resume = true := by
  unfold Command.ofArguments? at h
  split at h
  · cases h
  split at h
  · cases h
  split at h
  · cases h
  · obtain ⟨a, -, ha⟩ := Option.bind_eq_some_iff.mp h
    exact isFile_of_renderRequest ha
  · obtain ⟨a, -, ha⟩ := Option.bind_eq_some_iff.mp h
    unfold themesRequest at ha
    split_ifs at ha
    all_goals cases ha
  · cases h

theorem ofArguments?_themes (s : Store) (file : String) :
    Command.ofArguments? s ["themes", "--themes-file", file] =
      some (.themes (some (.ofString file))) := by
  rfl

theorem ofArguments?_render (s : Store) {resume : String} (theme file : String)
    (hempty : resume ≠ "") (hoption : isOption resume = false)
    (hfile : isFile s (.ofString resume) = true) :
    Command.ofArguments? s ["render", resume, "--theme", theme, "--themes-file", file] =
      some (.render ⟨.ofString resume, theme, none, .verbatim, some (.ofString file)⟩) := by
  have hdashes : resume ≠ "--" := by
    rintro rfl
    cases hoption
  have hread : readArguments renderSpellings [resume, "--theme", theme, "--themes-file", file] =
      some ⟨[(.theme, theme), (.themesFile, file)], [resume]⟩ := by
    rw [readArguments, if_neg hdashes, hoption]
    rfl
  have hthere : (resume ≠ "" && isFile s (.ofString resume)) = true := by simp [hempty, hfile]
  change (readArguments renderSpellings _).bind (renderRequest s) = _
  rw [hread]
  exact if_pos hthere

theorem nameLines_of_allSpellable {names : List Value} (h : allSpellable names = true) :
    nameLines names = (names.flatMap fun n => Text.lines (n.printed ++ "\n"), none) := by
  induction names with
  | nil => rfl
  | cons n names ih =>
    obtain ⟨hn, hnames⟩ := Bool.and_eq_true_iff.mp h
    rw [nameLines, Value.spelled_of_isSpellable hn, ih hnames, List.flatMap_cons]

/-- The listing breaks off at a name that cannot be spelled out. -/
theorem allSpellable_of_nameLines {names : List Value} (h : (nameLines names).2 = none) :
    allSpellable names = true := by
  induction names with
  | nil => rfl
  | cons n names ih =>
    rw [nameLines] at h
    split at h
    · cases h
    · next hn =>
      exact Bool.and_eq_true_iff.mpr ⟨(Value.spelled_eq_ok_iff.mp hn).1, ih h⟩

theorem exists_names_of_exit (h : (runThemes s file).exit = 0) : ∃ c names,
    Catalog.load s file = .ok c ∧ c.available = .ok names ∧ allSpellable names = true ∧
      (runThemes s file).out = names.flatMap fun n => Text.lines (n.printed ++ "\n") := by
  unfold runThemes at h ⊢
  cases hnames : Catalog.load s file >>= Catalog.available with
  | error e =>
    rw [hnames] at h
    cases h
  | ok names =>
    obtain ⟨c, hload, hlist⟩ := bind_eq_ok.mp hnames
    rw [hnames] at h
    dsimp only at h ⊢
    have hspells : allSpellable names = true := by
      refine allSpellable_of_nameLines ?_
      split_ifs at h with hfault
      exact Option.not_isSome_iff_eq_none.mp hfault
    rw [nameLines_of_allSpellable hspells]
    exact ⟨c, names, hload, hlist, hspells, rfl⟩

/-- A name that is listed and is a text is never missing when it is asked for, and a name that is no
text always is. -/
theorem listed_found_iff_text (hthemes : Command.ofArguments? s args = some (.themes file))
    (hexit : (run s args).2.exit = 0) :
    ∃ names, (Catalog.load s file >>= Catalog.available) = .ok names ∧
      (run s args).2.out = names.flatMap (fun n => Text.lines (n.printed ++ "\n")) ∧
      ∀ n ∈ names, ∀ args' r, Command.ofArguments? s args' = some (.render r) → r.themes = file →
        r.theme = n.printed →
          ((∃ m, n = .text m) → ∀ name, ¬ (run s args').2.MissesTheme name) ∧
          ((∀ m, n ≠ .text m) → (∃ s', s.makeDirs journalDirectory = .ok s') →
            (run s args').2.MissesTheme n.printed) := by
  rw [run_themes hthemes] at hexit ⊢
  obtain ⟨c, names, hload, hlist, hspells, hout⟩ := exists_names_of_exit hexit
  refine ⟨names, bind_eq_ok.mpr ⟨c, hload, hlist⟩, hout, ?_⟩
  rintro n hn args' r hrender rfl htheme
  rw [run_render hrender]
  constructor
  · rintro ⟨m, rfl⟩ name
    have hm : r.theme = m := htheme
    have hname : Value.text r.theme ∈ c.names := by
      rw [hm]
      exact ((Catalog.available_eq_ok hlist).2 _).mp hn
    exact not_missesTheme_runRender hload hname name
  · rintro hnot ⟨s', hdirs⟩
    rw [← htheme]
    exact missesTheme_runRender hdirs (isFile_of_ofArguments? hrender) hload hlist hspells hn hnot

/-! ## Catalogs with one theme -/

def themed (key : String) : Store :=
  ⟨[(["ada.yaml"], .text "first_name: Ada\nlast_name: Lovelace\n"),
    (["themes.yaml"], .text (key ++ ":\n  palette: \x7b\x7d\n"))]⟩

def listThemes : List String :=
  ["themes", "--themes-file", "themes.yaml"]

def renderIn (theme : String) : List String :=
  ["render", "ada.yaml", "--theme", theme, "--themes-file", "themes.yaml"]

def inTheme (theme : String) : Request :=
  ⟨⟨false, ["ada.yaml"]⟩, theme, none, .verbatim, some ⟨false, ["themes.yaml"]⟩⟩

theorem ofString_themes : Path.ofString "themes.yaml" = ⟨false, ["themes.yaml"]⟩ :=
  Path.ofString_name (by decide +kernel) (by decide) (by decide)

theorem ofArguments?_listThemes (s : Store) : Command.ofArguments? s listThemes =
    some (.themes (some ⟨false, ["themes.yaml"]⟩)) := by
  rw [listThemes, ofArguments?_themes, ofString_themes]

theorem ofArguments?_renderIn (key theme : String) :
    Command.ofArguments? (themed key) (renderIn theme) = some (.render (inTheme theme)) := by
  have hresume : Path.ofString "ada.yaml" = ⟨false, ["ada.yaml"]⟩ :=
    Path.ofString_name (by decide +kernel) (by decide) (by decide)
  have hfile : isFile (themed key) (.ofString "ada.yaml") = true := by
    rw [hresume]
    rfl
  rw [renderIn, ofArguments?_render _ theme "themes.yaml" (by decide) (by decide +kernel) hfile,
    hresume, ofString_themes]
  rfl

/-- Whether a listing holds one name and no other. -/
def isOnly (n : Value) : Except Fault (List Value) → Bool
  | .ok [v] => match n, v with
    | .text s, .text t => s == t
    | .int i, .int j => i == j
    | _, _ => false
  | _ => false

theorem eq_of_isOnly {n : Value} {x : Except Fault (List Value)} (h : isOnly n x = true) :
    x = .ok [n] := by
  unfold isOnly at h
  split at h
  · split at h
    · rw [eq_of_beq h]
    · rw [eq_of_beq h]
    · cases h
  · cases h

theorem listing_themed_one : (Catalog.load (themed "1") (some ⟨false, ["themes.yaml"]⟩) >>=
    Catalog.available) = .ok [.int 1] :=
  eq_of_isOnly (by decide +kernel)

theorem listing_themed_ink : (Catalog.load (themed "ink") (some ⟨false, ["themes.yaml"]⟩) >>=
    Catalog.available) = .ok [.text "ink"] :=
  eq_of_isOnly (by decide +kernel)

theorem exit_listThemes {key : String} {n : Value} (hn : n.isSpellable = true)
    (h : (Catalog.load (themed key) (some ⟨false, ["themes.yaml"]⟩) >>= Catalog.available) =
      .ok [n]) : (run (themed key) listThemes).2.exit = 0 := by
  rw [run_themes (ofArguments?_listThemes _), runThemes, h]
  dsimp only
  rw [nameLines_of_allSpellable (by simp [hn])]
  rfl

theorem isSpellable_one : (Value.int 1).isSpellable = true := by
  decide +kernel

theorem listed_found_iff_text_themed :
    (∀ name, ¬ (run (themed "ink") (renderIn "ink")).2.MissesTheme name) ∧
      (run (themed "1") (renderIn "1")).2.MissesTheme "1" := by
  constructor
  · obtain ⟨names, hnames, -, hfound⟩ := listed_found_iff_text (ofArguments?_listThemes _)
      (exit_listThemes rfl listing_themed_ink)
    rw [listing_themed_ink] at hnames
    cases hnames
    exact (hfound (.text "ink") (by simp) _ _ (ofArguments?_renderIn _ _) rfl rfl).1 ⟨_, rfl⟩
  · obtain ⟨names, hnames, -, hfound⟩ := listed_found_iff_text (ofArguments?_listThemes _)
      (exit_listThemes isSpellable_one listing_themed_one)
    rw [listing_themed_one] at hnames
    cases hnames
    exact (hfound (.int 1) (by simp) _ _ (ofArguments?_renderIn _ _) rfl
      (by decide +kernel)).2 nofun
      ⟨_, rfl⟩

theorem not_forall_listed_found : ¬ ∀ (s : Store) (args args' : List String) (file : Option Path)
    (names : List Value) (r : Request), Command.ofArguments? s args = some (.themes file) →
      (run s args).2.exit = 0 → (Catalog.load s file >>= Catalog.available) = .ok names →
        Command.ofArguments? s args' = some (.render r) → r.themes = file →
          (∃ n ∈ names, r.theme = n.printed) → ∀ name, ¬ (run s args').2.MissesTheme name := by
  intro h
  have hprinted : "1" = (Value.int 1).printed := by decide +kernel
  apply h (themed "1") listThemes (renderIn "1") _ _ (inTheme "1") (ofArguments?_listThemes _)
    (exit_listThemes isSpellable_one listing_themed_one) listing_themed_one
    (ofArguments?_renderIn _ _) rfl
    ⟨.int 1, by simp, hprinted⟩ "1"
  rw [run_render (ofArguments?_renderIn _ _)]
  obtain ⟨c, hload, hlist⟩ := bind_eq_ok.mp listing_themed_one
  have hspells : allSpellable [.int 1] = true := by simp [isSpellable_one]
  exact missesTheme_runRender (n := .int 1) rfl rfl hload hlist hspells (by simp) nofun

end CommandLine

end ResumePress
