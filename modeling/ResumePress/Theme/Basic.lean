import ResumePress.Theme.Rgb

/-!
# Themes

A theme decides everything presentational: the value of each color, the style sheet of the page and
the chrome of a card, and it may fail to give any of them. The color that a theme answers is checked
each time, because a theme is free to answer anything.
-/
namespace ResumePress

/-- A theme. Its name and its style sheet are whatever a configuration gave. -/
structure Theme where
  name : Value
  rgb : Value → Except Fault Value
  css : Except Fault Value
  card : String → Except Fault String

namespace Theme

/-- The style sheet of a theme that does not bring its own. -/
def defaultCss : String :=
  "@import url('https://fonts.googleapis.com/css2?family=Roboto:wght@400;700&display=swap');\n" ++
    "body \x7b font-family: 'Roboto', sans-serif; \x7d"

def cardOpening : String :=
  "<div class=\"card\" style=\"height:100%\"><div class=\"card-body\" style=\"height:100%\">"

def cardClosing : String := "</div></div>"

def defaultCard (content : String) : Except Fault String :=
  .ok (cardOpening ++ content ++ cardClosing)

/-- The color under a name, checked and in the notation of style sheets. -/
def hex (t : Theme) (token : Value) : Except Fault String :=
  match t.rgb token with
  | .error e => .error e
  | .ok v =>
    match Rgb.check v token.color? t.name with
    | .error e => .error e
    | .ok c => .ok c.hex

/-- The colors of the theme in the order of their declaration, up to the first that it lacks. -/
def allHex (t : Theme) : Except Fault (List (Color × String)) :=
  Color.all.mapM (fun c => (t.hex (.color c)).map (fun h => (c, h)))

end Theme

end ResumePress
