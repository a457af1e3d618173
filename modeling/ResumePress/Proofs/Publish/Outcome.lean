import ResumePress.Proofs.Files.Store
import ResumePress.Proofs.Resume.Assembly
import ResumePress.Publish

/-!
# What publishing leaves behind

A page is rendered from the files as they are before anything is written, and writing it comes last.
So the outcome, the journal and the files agree: a page is there and nothing else has changed, or
the fault is reported and nothing at all has changed. A fault that ends the run changes no file
either; directories made for the page are all that it can leave. A file with anchors, aliases, tags,
directives or merging keys fails to load here, so for such a file only the case of a fault is
stated.
-/
namespace ResumePress

namespace Logged

theorem result_bind {α β : Type} (x : Logged α) (f : α → Logged β) :
    (x >>= f).result = x.result >>= fun a => (f a).result := by
  change (x.andThen f).result = _
  rw [andThen]
  cases x.result <;> rfl

@[simp] theorem result_quietly {α : Type} (r : Except Fault α) : (quietly r).result = r := rfl

@[simp] theorem result_say (level : Level) (message : String) :
    (say level message).result = .ok () := rfl

end Logged

theorem Fault.message?_of_reported? {e : Fault} {message : String}
    (h : e.reported? = some message) : e.message? = some message := by
  cases e <;> first | exact h | cases h

namespace Request

variable {s after : Store} {r : Request}

/-! ## The stages before writing -/

/-- The page that a request makes of the files: the resume laid out and rendered in the theme. -/
def Yields (s : Store) (r : Request) (page : String) : Prop :=
  ∃ theme resume, (Catalog.loadTheme s r.theme r.themes).result = .ok theme ∧
    (Resume.load s r.resume).result = .ok resume ∧
    Page.ofResume theme r.policy r.policy resume = .ok page

/-- The fault of the first stage that fails: loading the theme, loading the resume, or rendering. -/
inductive Fails (s : Store) (r : Request) : Fault → Prop
  | theme {e : Fault} (h : (Catalog.loadTheme s r.theme r.themes).result = .error e) : Fails s r e
  | resume {theme : PaletteTheme} {e : Fault}
    (ht : (Catalog.loadTheme s r.theme r.themes).result = .ok theme)
    (h : (Resume.load s r.resume).result = .error e) : Fails s r e
  | rendering {theme : PaletteTheme} {resume : Resume} {e : Fault}
    (ht : (Catalog.loadTheme s r.theme r.themes).result = .ok theme)
    (hr : (Resume.load s r.resume).result = .ok resume)
    (h : Page.ofResume theme r.policy r.policy resume = .error e) :
    Fails s r e

theorem result_page (s : Store) (r : Request) :
    (r.page s).result = (do
      let theme ← (Catalog.loadTheme s r.theme r.themes).result
      let resume ← (Resume.load s r.resume).result
      Page.ofResume theme r.policy r.policy resume) := by
  simp only [page, Logged.result_bind, Logged.result_say, Logged.result_quietly]
  rfl

theorem yields_of_page {page : String} (h : (r.page s).result = .ok page) : r.Yields s page := by
  rw [result_page] at h
  obtain ⟨theme, ht, h⟩ := bind_eq_ok.mp h
  obtain ⟨resume, hr, h⟩ := bind_eq_ok.mp h
  exact ⟨theme, resume, ht, hr, h⟩

theorem fails_of_page {e : Fault} (h : (r.page s).result = .error e) : r.Fails s e := by
  rw [result_page] at h
  rcases bind_eq_error.mp h with ht | ⟨theme, ht, h⟩
  · exact .theme ht
  rcases bind_eq_error.mp h with hr | ⟨resume, hr, h⟩
  · exact .resume ht hr
  · exact .rendering ht hr h

/-! ## Writing -/

theorem addsDirectories_of_deliver_error {target : Path} {page : String} {e : Fault}
    (h : deliver s target page = (after, .error e)) : s.AddsDirectories after := by
  have hdirs := s.addsDirectories_leaveDirs target.parent
  unfold deliver at h
  split at h
  · next prepared e' hprepared =>
    cases h
    rwa [hprepared] at hdirs
  · next prepared hprepared =>
    split at h
    · cases h
      rwa [hprepared] at hdirs
    · cases h

theorem deliver_spec {target : Path} {page : String}
    (h : deliver s target page = (after, .ok ())) : after.read target = .ok page ∧
      ∃ spot, after.walk target = .ok spot ∧ ∀ x, x ≠ spot → after.file? x = s.file? x := by
  have hdirs := s.addsDirectories_leaveDirs target.parent
  unfold deliver at h
  split at h
  · cases h
  · next prepared hprepared =>
    rw [hprepared] at hdirs
    split at h
    · cases h
    · next written hwrite =>
      cases h
      obtain ⟨hread, spot, hwalk, hothers⟩ := Store.write_spec hwrite
      refine ⟨hread, spot, hwalk, ?_⟩
      intro x hx
      rw [Store.file?_eq_of_at?_eq (hothers x hx), hdirs.file?_eq]

/-! ## Whole runs -/

/-- The ways in which publishing can go, with what is left behind and what came of it. -/
inductive Run (s : Store) (r : Request) : Store → List LogRecord → Except Fault Outcome → Prop
  | nameless {e : Fault} (h : r.target = .error e) : Run s r s [] (.error e)
  | reported {target : Path} {e : Fault} {message : String} (ht : r.target = .ok target)
    (hp : (r.page s).result = .error e) (he : e.reported? = some message) :
    Run s r s (r.opening target ++ (r.page s).records ++ r.closing (.failed message))
      (.ok (.failed message))
  | ended {target : Path} {e : Fault} (ht : r.target = .ok target)
    (hp : (r.page s).result = .error e) (he : e.reported? = none) :
    Run s r s (r.opening target ++ (r.page s).records) (.error e)
  | undelivered {target : Path} {page : String} {after : Store} {e : Fault}
    (ht : r.target = .ok target) (hp : (r.page s).result = .ok page)
    (hd : deliver s target page = (after, .error e)) :
    Run s r after (r.opening target ++ (r.page s).records) (.error e)
  | written {target : Path} {page : String} {after : Store} (ht : r.target = .ok target)
    (hp : (r.page s).result = .ok page) (hd : deliver s target page = (after, .ok ())) :
    Run s r after (r.opening target ++ (r.page s).records ++ r.closing (.written target))
      (.ok (.written target))

theorem run_publish (s : Store) (r : Request) :
    r.Run s (r.publish s).1 (r.publish s).2.records (r.publish s).2.result := by
  unfold publish
  cases ht : r.target with
  | error e => exact .nameless ht
  | ok target =>
    dsimp only
    cases hp : (r.page s).result with
    | error e =>
      dsimp only
      cases he : e.reported? with
      | some message => exact .reported ht hp he
      | none => exact .ended ht hp he
    | ok page =>
      dsimp only
      rcases hd : deliver s target page with ⟨after, result⟩
      cases result with
      | error e => exact .undelivered ht hp hd
      | ok u => exact .written ht hp hd

/-- A written page is the page of the files as they were, and no other file has changed; after a
reported fault, which is that of the stage that failed, everything is as it was; and a fault that
ends the run changes no file. The last two records tell the same. -/
theorem publish_outcome (s : Store) (r : Request) :
    match (r.publish s).2.result with
    | .ok (.written path) =>
      r.target = .ok path ∧
      (∃ page, r.Yields s page ∧ (r.publish s).1.read path = .ok page) ∧
      (∃ spot, (r.publish s).1.walk path = .ok spot ∧
        ∀ x, x ≠ spot → (r.publish s).1.file? x = s.file? x) ∧
      [⟨.success, topic "render" ("Rendered with theme '" ++ r.theme ++ "' (T)")⟩,
        ⟨.info, topic "render" ("  Output: " ++ path.shown)⟩] <:+ (r.publish s).2.records
    | .ok (.failed message) =>
      (r.publish s).1 = s ∧
      (∃ e, r.Fails s e ∧ e.message? = some message) ∧
      [⟨.error, topic "render" "Render failed (T)"⟩,
        ⟨.error, topic "render" ("  Error: " ++ message)⟩] <:+ (r.publish s).2.records
    | .error _ => ∀ x, (r.publish s).1.file? x = s.file? x := by
  have hrun := run_publish s r
  generalize (r.publish s).1 = after, (r.publish s).2.records = records,
    (r.publish s).2.result = result at hrun ⊢
  cases hrun with
  | nameless => exact fun _ => rfl
  | reported ht hp he =>
    exact ⟨rfl, ⟨_, fails_of_page hp, Fault.message?_of_reported? he⟩, List.suffix_append _ _⟩
  | ended => exact fun _ => rfl
  | undelivered ht hp hd =>
    intro x
    exact (addsDirectories_of_deliver_error hd).file?_eq x
  | written ht hp hd =>
    obtain ⟨hread, hothers⟩ := deliver_spec hd
    exact ⟨ht, ⟨_, yields_of_page hp, hread⟩, hothers, List.suffix_append _ _⟩

end Request

end ResumePress
