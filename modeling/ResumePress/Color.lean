import ResumePress.Text.Letters
import ResumePress.Text.Occurs

/-!
# Colors by name

A document never holds a concrete color. It names one of sixteen: eleven hues and five roles whose
color each theme chooses.
-/
namespace ResumePress

/-- A color that every theme gives a concrete value. -/
inductive Color
  | red | pink | orange | yellow | green | blue | violet | brown | black | white | grey
  | defaultTitle | defaultSectionTitle | defaultSubtitle | defaultForeground | defaultBackground
  deriving DecidableEq, Repr

namespace Color

/-- The name that palettes and messages use. -/
def token : Color → String
  | red => "red"
  | pink => "pink"
  | orange => "orange"
  | yellow => "yellow"
  | green => "green"
  | blue => "blue"
  | violet => "violet"
  | brown => "brown"
  | black => "black"
  | white => "white"
  | grey => "grey"
  | defaultTitle => "default_title"
  | defaultSectionTitle => "default_section_title"
  | defaultSubtitle => "default_subtitle"
  | defaultForeground => "default_foreground"
  | defaultBackground => "default_background"

/-- All colors in the order in which they are listed everywhere. -/
def all : List Color :=
  [red, pink, orange, yellow, green, blue, violet, brown, black, white, grey,
    defaultTitle, defaultSectionTitle, defaultSubtitle, defaultForeground, defaultBackground]

theorem mem_all (c : Color) : c ∈ all := by
  cases c <;> simp [all]

/-- The roles are named for the part of the page that they color. -/
def isRole (c : Color) : Bool :=
  Text.beginsWith "default_" c.token

def ofToken? (s : String) : Option Color :=
  all.find? (fun c => c.token == s)

theorem ofToken?_token (c : Color) : ofToken? c.token = some c := by
  cases c <;> decide

end Color

end ResumePress
