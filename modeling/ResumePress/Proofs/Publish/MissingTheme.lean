import ResumePress.Proofs.Page.Faults
import ResumePress.Proofs.Page.Make
import ResumePress.Proofs.Theme.Listing

/-!
# When a theme is reported as missing

The theme is looked up first, so a theme that is not there is what a request is told. Where it is
there, nothing that may go wrong later is told in the same words.
-/
namespace ResumePress

/-! ## The message of an unknown theme -/

def beginsLikeUnknown : List Char → Bool
  | 'T' :: 'h' :: 'e' :: 'm' :: 'e' :: ' ' :: '\x27' :: _ => true
  | _ => false

theorem ThemeCause.begins_message (cause : ThemeCause) :
    ∀ a, beginsLikeUnknown (cause.message.toList ++ a) = false := by
  have more := @Page.apply_append _ beginsLikeUnknown
  have literal := @Page.apply_literal _ beginsLikeUnknown
  cases cause with
  | noPalette => exact literal fun _ => rfl
  | missingColors | notByName => exact more (literal fun _ => rfl)
  | unknownColor | notTriple | channelOutOfRange => exact more (more (more (literal fun _ => rfl)))

theorem NodeCause.begins_message (cause : NodeCause) :
    ∀ a, beginsLikeUnknown (cause.message.toList ++ a) = false := by
  have more := @Page.apply_append _ beginsLikeUnknown
  have literal := @Page.apply_literal _ beginsLikeUnknown
  cases cause with
  | notColor => exact more (more (literal fun _ => rfl))
  | _ => exact more (literal fun _ => rfl)

theorem EntryCause.begins_message (cause : EntryCause) :
    ∀ a, beginsLikeUnknown (cause.message.toList ++ a) = false := by
  have more := @Page.apply_append _ beginsLikeUnknown
  have literal := @Page.apply_literal _ beginsLikeUnknown
  cases cause with
  | noSubject | badYear => exact more (more (literal fun _ => rfl))
  | unknownProficiency => exact more (more (more (literal fun _ => rfl)))
  | reversedYears => exact more (more (more (more (literal fun _ => rfl))))

theorem ShapeCause.begins_message (cause : ShapeCause) :
    ∀ a, beginsLikeUnknown (cause.message.toList ++ a) = false := by
  have more := @Page.apply_append _ beginsLikeUnknown
  have literal := @Page.apply_literal _ beginsLikeUnknown
  cases cause with
  | notMapping => exact literal fun _ => rfl
  | badDegree | badSkill | badEducation | badWork | badContact =>
    exact more (literal fun _ => rfl)
  | missingField | notList | unknownDegree | unknownContact =>
    exact more (more (more (literal fun _ => rfl)))
  | notYear => exact more (more (more (more (more (literal fun _ => rfl)))))

theorem RenderCause.begins_message (cause : RenderCause) :
    ∀ a, beginsLikeUnknown (cause.message.toList ++ a) = false := by
  have more := @Page.apply_append _ beginsLikeUnknown
  have literal := @Page.apply_literal _ beginsLikeUnknown
  cases cause with
  | notNode => exact more (literal fun _ => rfl)
  | fadeIn => exact more (more (literal fun _ => rfl))

/-- No other message begins like that of an unknown theme. -/
theorem Fault.begins_message {e : Fault} {message : String} (h : e.message? = some message)
    (hne : ∀ name available, e ≠ .unknownTheme name available) :
    ∀ a, beginsLikeUnknown (message.toList ++ a) = false := by
  cases e with
  | unknownTheme name available => exact absurd rfl (hne name available)
  | theme cause name =>
    cases h
    exact Page.apply_append _ cause.begins_message
  | node cause | entry cause | shape cause | rendering cause =>
    cases h
    exact cause.begins_message
  | missing role path =>
    cases role
    all_goals
      cases h
      exact Page.apply_append _ (Page.apply_literal _ fun _ => rfl)
  | config | files | misuse | template => cases h

/-! ## Publishing in a theme that may be missing -/

/-- A resume is not asked for a theme. -/
theorem Resume.ne_unknownTheme_of_load {s : Store} {p : Path} {e : Fault}
    (h : (load s p).result = .error e) (name : Value) (available : List Value) :
    e ≠ .unknownTheme name available := by
  rintro rfl
  rw [result_load] at h
  rcases bind_eq_error.mp h with h | ⟨v, -, h⟩
  · obtain he | ⟨f, he⟩ | ⟨c, he⟩ := configOf_eq_error h
    all_goals cases he
  · have hresume : CoversResumes fun e => e ≠ .unknownTheme name available := by
      rintro e he rfl
      exact he
    exact ofConfig_failsIn hresume (.inl nofun) (fun _ => nofun) _ h rfl

namespace Request

variable {s : Store} {r : Request} {c : Catalog}

/-- Where the theme is there, no stage takes it for missing. -/
theorem Fails.ne_unknownTheme {e : Fault} (h : r.Fails s e)
    (hload : Catalog.load s r.themes = .ok c)
    (hname : Value.text r.theme ∈ c.names) (name : Value) (available : List Value) :
    e ≠ .unknownTheme name available := by
  cases h with
  | theme h =>
    rw [Catalog.result_loadTheme, hload] at h
    have htheme := Catalog.isOfTheme_of_theme hname h
    rintro rfl
    exact htheme
  | resume _ h => exact Resume.ne_unknownTheme_of_load h name available
  | @rendering theme resume _ _ _ h =>
    have hpage := Page.ofResume_failsIn theme r.policy r.policy resume e h
    rintro rfl
    exact hpage

/-- A theme that is not there is what publishing reports first, if the names that are there can be
spelled out. -/
theorem result_publish_of_unknownTheme {names : List Value} (ht : ∃ target, r.target = .ok target)
    (hload : Catalog.load s r.themes = .ok c) (hnames : allSpellable names = true)
    (htheme : c.theme (.text r.theme) = Fault.raise (.unknownTheme (.text r.theme) names)) :
    (r.publish s).2.result = .ok (.failed ("Theme '" ++ r.theme ++
      "' not found. Available themes: " ++ (Value.list names).literal)) := by
  rw [Fault.raise, Catalog.told_unknownTheme r.theme hnames] at htheme
  rw [result_publish_of_theme_error ht hload htheme]
  rfl

end Request

end ResumePress
